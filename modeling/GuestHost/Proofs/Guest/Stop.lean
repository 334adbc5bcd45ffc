import GuestHost.Proofs.Display.Compositor
import GuestHost.Proofs.Guest.Run

/-! Where guest code stops early. A run is a sequence of single steps, and what stops it is the
guest's own trap or a host call that fails on the machine those steps have left. -/
namespace GuestHost

namespace HostCall

/-- Whether the call needs the memory of a guest. -/
def usesMemory : HostCall → Bool
  | .printChar _ => false
  | _ => true

/-- How often the clock is read for a call, whether or not it is answered. -/
def readings : HostCall → Nat
  | .getDateTime _ => 1
  | _ => 0

end HostCall

namespace Machine

variable {m m' : Machine} {caller : Caller} {e : Error} {t : List Output}

/-- Why the host refuses a call of a guest whose memory it can find: a text, a layer or a record
that the memory does not hold as a whole. -/
inductive Refuses (m : Machine) : HostCall → Error → Prop where
  | textOutside {ptr : UInt32} : m.memory.size < ptr.toNat →
      Refuses m (.printStr ptr) (.outOfRange ptr.toNat 1 m.memory.size)
  | textUnterminated {ptr : UInt32} : ptr.toNat ≤ m.memory.size →
      (∀ i, ptr.toNat ≤ i → i < m.memory.size → Bytes.byteAt m.memory.bytes i ≠ 0) →
      Refuses m (.printStr ptr) (.unterminated ptr.toNat)
  | background {bg fg : UInt32} : Span.Misses m.memory.size bg m.compositor.layerLength →
      Refuses m (.render bg fg) (.outOfRange bg.toNat m.compositor.layerLength m.memory.size)
  | foreground {bg fg : UInt32} : ¬Span.Misses m.memory.size bg m.compositor.layerLength →
      Span.Misses m.memory.size fg m.compositor.layerLength →
      Refuses m (.render bg fg) (.outOfRange fg.toNat m.compositor.layerLength m.memory.size)
  | record {out : UInt32} : Span.Misses m.memory.size out 16 →
      Refuses m (.getDateTime out) (.outOfRange out.toNat 16 m.memory.size)

/-- Why a call fails, whoever makes it: no memory is found for it, or it is refused. -/
inductive Denies (m : Machine) (caller : Caller) (c : HostCall) : Error → Prop where
  | homeless : m.finds caller = false → c.usesMemory = true → Denies m caller c .missingMemory
  | refused {e : Error} : m.finds caller = true → m.Refuses c e → Denies m caller c e

/-- A call that fails changes nothing; at most the clock has been read for it. -/
structure Denial (m : Machine) (caller : Caller) (c : HostCall) (e : Error) (m' : Machine) :
    Prop where
  cause : m.Denies caller c e
  machine : m' = { m with readings := m.readings + c.readings }

theorem finds_eq_true_iff : m.finds caller = true ↔ m.exported = true ∧ caller = .guest := by
  simp only [finds, Bool.and_eq_true, decide_eq_true_eq]

theorem finds_host (m : Machine) : m.finds .host = false :=
  Bool.and_false _

theorem exportedMemory_eq (h : m.finds caller = true) :
    exportedMemory caller m = ⟨.ok m.memory, m, []⟩ := by
  simp only [exportedMemory, h, if_true]

theorem exportedMemory_of_not (h : m.finds caller = false) :
    exportedMemory caller m = ⟨.error .missingMemory, m, []⟩ := by
  simp only [exportedMemory, h, Bool.false_eq_true, if_false]

theorem now_eq (m : Machine) : (now : Act Error Machine DateTime) m =
    ⟨.ok (m.clock m.readings), { m with readings := m.readings + 1 }, []⟩ := rfl

theorem getDateTime_eq (hm : m.finds caller = true) (out : UInt32) : getDateTime caller out m =
    (Act.ofExcept (m.memory.write out (m.clock m.readings).record) >>= fun memory =>
      Act.modify fun m => { m with memory }) { m with readings := m.readings + 1 } := by
  rw [getDateTime, Act.bind_of_silent (now_eq m)]
  exact Act.bind_of_silent (exportedMemory_eq hm)

/-- Without a memory everything but a character is turned down. -/
theorem answer_of_homeless {c : HostCall} (hm : m.finds caller = false) (hc : c.usesMemory = true) :
    answer caller c m =
      ⟨.error .missingMemory, { m with readings := m.readings + c.readings }, []⟩ := by
  cases c with
  | printChar code => cases hc
  | printStr ptr => exact Act.bind_of_error (exportedMemory_of_not hm)
  | render bg fg => exact Act.bind_of_error (exportedMemory_of_not hm)
  | getDateTime out =>
    rw [answer, getDateTime, Act.bind_of_silent (now_eq m)]
    exact Act.bind_of_error (exportedMemory_of_not hm)

theorem refuses_of_printStr {ptr : UInt32} (hm : m.finds caller = true)
    (h : printStr caller ptr m = ⟨.error e, m', t⟩) :
    m.Refuses (.printStr ptr) e ∧ m' = m ∧ t = [] := by
  rw [printStr, Act.bind_of_silent (exportedMemory_eq hm)] at h
  cases ht : terminatedText m.memory.bytes ptr with
  | ok text =>
    rw [ht, Act.ofExcept_ok_bind] at h
    cases h
  | error err =>
    rw [ht, Act.ofExcept_error_bind] at h
    cases h
    refine ⟨?_, rfl, rfl⟩
    rcases terminatedText_error ht with ⟨hout, rfl⟩ | ⟨⟨hin, hnone⟩, rfl⟩
    · exact .textOutside hout
    · exact .textUnterminated hin hnone

theorem refuses_of_render {bg fg : UInt32} (hm : m.finds caller = true)
    (h : render caller bg fg m = ⟨.error e, m', t⟩) :
    m.Refuses (.render bg fg) e ∧ m' = m ∧ t = [] := by
  rw [render, Act.bind_of_silent (exportedMemory_eq hm), Act.get_bind] at h
  cases hc : m.compositor.render m.memory.bytes bg fg with
  | ok c =>
    rw [hc, Act.ofExcept_ok_bind] at h
    cases h
  | error err =>
    rw [hc, Act.ofExcept_error_bind] at h
    cases h
    refine ⟨?_, rfl, rfl⟩
    by_cases hb : Span.Misses m.memory.size bg m.compositor.layerLength
    · rw [Compositor.render_of_background hb] at hc
      cases hc
      exact .background hb
    · by_cases hf : Span.Misses m.memory.size fg m.compositor.layerLength
      · rw [Compositor.render_of_foreground hb hf] at hc
        cases hc
        exact .foreground hb hf
      · rw [Compositor.render_of_not_misses hb hf] at hc
        cases hc

theorem refuses_of_getDateTime {out : UInt32} (hm : m.finds caller = true)
    (h : getDateTime caller out m = ⟨.error e, m', t⟩) :
    m.Refuses (.getDateTime out) e ∧ m' = { m with readings := m.readings + 1 } ∧ t = [] := by
  rw [getDateTime_eq hm] at h
  cases hw : m.memory.write out (m.clock m.readings).record with
  | ok memory =>
    rw [hw, Act.ofExcept_ok_bind] at h
    cases h
  | error err =>
    rw [hw, Act.ofExcept_error_bind] at h
    cases h
    refine ⟨?_, rfl, rfl⟩
    obtain ⟨hmiss, rfl⟩ := Memory.misses_of_write_error hw
    exact .record hmiss

theorem denial_of_answer {c : HostCall} (h : answer caller c m = ⟨.error e, m', t⟩) :
    m.Denial caller c e m' ∧ t = [] := by
  cases hm : m.finds caller with
  | false =>
    cases hc : c.usesMemory with
    | false =>
      cases c with
      | printChar code => cases h
      | _ => cases hc
    | true =>
      rw [answer_of_homeless hm hc] at h
      cases h
      exact ⟨⟨.homeless hm hc, rfl⟩, rfl⟩
  | true =>
    cases c with
    | printChar code => cases h
    | printStr ptr =>
      obtain ⟨hcause, hm', ht⟩ := refuses_of_printStr hm h
      exact ⟨⟨.refused hm hcause, hm'⟩, ht⟩
    | render bg fg =>
      obtain ⟨hcause, hm', ht⟩ := refuses_of_render hm h
      exact ⟨⟨.refused hm hcause, hm'⟩, ht⟩
    | getDateTime out =>
      obtain ⟨hcause, hm', ht⟩ := refuses_of_getDateTime hm h
      exact ⟨⟨.refused hm hcause, hm'⟩, ht⟩

/-- What the memory does not hold is refused, whichever call asks for it. -/
theorem result_of_refuses {c : HostCall} (hm : m.finds caller = true) (h : m.Refuses c e) :
    (answer caller c m).result = .error e := by
  have hmem := exportedMemory_eq hm
  cases h with
  | textOutside hout =>
    have ht := terminatedText_of_lt hout
    rw [answer, printStr, Act.bind_of_silent hmem, ht]
    rfl
  | textUnterminated hin hnone =>
    have ht := terminatedText_of_unterminated hin hnone
    rw [answer, printStr, Act.bind_of_silent hmem, ht]
    rfl
  | background hb =>
    rw [answer, render, Act.bind_of_silent hmem, Act.get_bind, Compositor.render_of_background hb]
    rfl
  | foreground hb hf =>
    have hc := Compositor.render_of_foreground hb hf
    rw [answer, render, Act.bind_of_silent hmem, Act.get_bind, hc]
    rfl
  | record hmiss =>
    have hw : m.memory.write _ (m.clock m.readings).record = _ := Memory.write_of_misses hmiss
    rw [answer, getDateTime_eq hm, hw]
    rfl

theorem result_answer_iff {c : HostCall} :
    (answer caller c m).result = .error e ↔ m.Denies caller c e := by
  constructor
  · intro h
    rcases ha : answer caller c m with ⟨r, m', t⟩
    rw [ha] at h
    cases h
    exact (denial_of_answer ha).1.cause
  · intro h
    cases h with
    | homeless hm hc => rw [answer_of_homeless hm hc]
    | refused hm hcause => exact result_of_refuses hm hcause

/-- Where the memory is found, a call fails only if it is refused. -/
theorem denies_iff_refuses {c : HostCall} (hm : m.finds caller = true) :
    m.Denies caller c e ↔ m.Refuses c e := by
  refine ⟨fun h => ?_, .refused hm⟩
  cases h with
  | homeless hnot => exact absurd (hm.symm.trans hnot) Bool.noConfusion
  | refused _ hcause => exact hcause

theorem denies_iff_homeless {c : HostCall} (hm : m.finds caller = false) :
    m.Denies caller c e ↔ c.usesMemory = true ∧ e = .missingMemory := by
  constructor
  · intro h
    cases h with
    | homeless _ hc => exact ⟨hc, rfl⟩
    | refused hfound => exact absurd (hm.symm.trans hfound) Bool.noConfusion
  · rintro ⟨hc, rfl⟩
    exact .homeless hm hc

end Machine

namespace Code

variable {α : Type}

/-- One step: what it shows, and the code and the machine to go on with. -/
inductive Step (caller : Caller) : Code α → Machine → List Output → Code α → Machine → Prop where
  | pages (m : Machine) (next : UInt32 → Code α) :
      Step caller (.pages next) m [] (next m.memory.pages.toUInt32) m
  | grow {m : Machine} {delta : UInt32} {next : UInt32 → Code α} {memory : Memory} :
      m.memory.grow? delta.toNat = some memory →
        Step caller (.grow delta next) m [] (next m.memory.pages.toUInt32) { m with memory }
  | full {m : Machine} {delta : UInt32} {next : UInt32 → Code α} :
      m.memory.grow? delta.toNat = none → Step caller (.grow delta next) m [] (next noPages) m
  | load {m : Machine} {addr len : Nat} {next : ByteArray → Code α} {bytes : ByteArray} :
      m.memory.load? addr len = some bytes → Step caller (.load addr len next) m [] (next bytes) m
  | store {m : Machine} {addr : Nat} {bytes : ByteArray} {next : Code α} {memory : Memory} :
      m.memory.store? addr bytes = some memory →
        Step caller (.store addr bytes next) m [] next { m with memory }
  | fill {m : Machine} {addr len : Nat} {byte : UInt8} {next : Code α} {memory : Memory} :
      m.memory.fill? addr byte len = some memory →
        Step caller (.fill addr byte len next) m [] next { m with memory }
  | global (m : Machine) (i : Nat) (next : UInt64 → Code α) :
      Step caller (.global i next) m [] (next (m.globals i)) m
  | setGlobal (m : Machine) (i : Nat) (v : UInt64) (next : Code α) :
      Step caller (.setGlobal i v next) m [] next
        { m with globals := fun j => if j = i then v else m.globals j }
  | host {m m' : Machine} {c : HostCall} {next : Code α} {t : List Output} :
      Machine.answer caller c m = ⟨.ok (), m', t⟩ → Step caller (.host c next) m t next m'

/-- Any number of steps, with all that they show. -/
inductive Reaches (caller : Caller) : Code α → Machine → List Output → Code α → Machine → Prop where
  | refl (x : Code α) (m : Machine) : Reaches caller x m [] x m
  | step {x y z : Code α} {m m₁ m₂ : Machine} {t t' : List Output} :
      Step caller x m t y m₁ → Reaches caller y m₁ t' z m₂ → Reaches caller x m (t ++ t') z m₂

/-- No step goes on from here: the guest traps, or the host denies what it is asked. -/
inductive Stuck (caller : Caller) : Code α → Machine → Stop → Machine → Prop where
  | trap (t : Trap) (m : Machine) : Stuck caller (.trap t) m (.trap t) m
  | load {m : Machine} {addr len : Nat} (next : ByteArray → Code α) :
      m.memory.load? addr len = none → Stuck caller (.load addr len next) m (.trap .memoryBounds) m
  | store {m : Machine} {addr : Nat} {bytes : ByteArray} (next : Code α) :
      m.memory.store? addr bytes = none →
        Stuck caller (.store addr bytes next) m (.trap .memoryBounds) m
  | fill {m : Machine} {addr len : Nat} {byte : UInt8} (next : Code α) :
      m.memory.fill? addr byte len = none →
        Stuck caller (.fill addr byte len next) m (.trap .memoryBounds) m
  | host {m m' : Machine} {c : HostCall} {e : Error} (next : Code α) :
      Machine.Denial m caller c e m' → Stuck caller (.host c next) m (.refused e) m'

variable {caller : Caller} {x y : Code α} {m m₁ : Machine} {t : List Output}

theorem Step.run_eq (h : Step caller x m t y m₁) :
    x.run caller m =
      ⟨(y.run caller m₁).result, (y.run caller m₁).state, t ++ (y.run caller m₁).trace⟩ := by
  cases h with
  | pages => rfl
  | grow hm => simp only [run, hm, List.nil_append]
  | full hm => simp only [run, hm, List.nil_append]
  | load hm => simp only [run, hm, List.nil_append]
  | store hm => simp only [run, hm, List.nil_append]
  | fill hm => simp only [run, hm, List.nil_append]
  | global => rfl
  | setGlobal => rfl
  | host hm => simp only [run, hm]

variable {R : Machine → List Output → Machine → Prop}

theorem Step.keeps (hR : Machine.Kept R) (h : Step caller x m t y m₁) : R m t m₁ := by
  cases h with
  | pages => exact hR.refl _
  | grow hm => exact hR.grow hm
  | full => exact hR.refl _
  | load => exact hR.refl _
  | store hm => exact hR.store hm
  | fill hm => exact hR.fill hm
  | global => exact hR.refl _
  | setGlobal => exact hR.setGlobal _ _
  | @host _ _ c _ _ hm =>
    have hc := hR.answer caller c m
    rwa [hm] at hc

theorem Reaches.keeps (hR : Machine.Kept R) (h : Reaches caller x m t y m₁) : R m t m₁ := by
  induction h with
  | refl x m => exact hR.refl m
  | step hstep _ ih => exact hR.trans (hstep.keeps hR) ih

variable {stop : Stop} {m' : Machine}

/-- A step goes before the steps to where the code gets stuck. -/
theorem exists_stuck_of_step {t₁ : List Output} (hstep : Step caller x m t₁ y m₁)
    (hx : x.run caller m = ⟨.error stop, m', t⟩)
    (hy : ∀ {t₂}, y.run caller m₁ = ⟨.error stop, m', t₂⟩ →
      ∃ z m₂, Reaches caller y m₁ t₂ z m₂ ∧ Stuck caller z m₂ stop m') :
    ∃ z m₂, Reaches caller x m t z m₂ ∧ Stuck caller z m₂ stop m' := by
  rcases hrest : y.run caller m₁ with ⟨r, s, t₂⟩
  rw [hstep.run_eq, hrest] at hx
  cases hx
  obtain ⟨z, m₂, hreach, hstuck⟩ := hy hrest
  exact ⟨z, m₂, .step hstep hreach, hstuck⟩

/-- By induction on the code: it gets stuck at once, or its first step leads to code that gets
stuck later. -/
theorem stuck_of_run (h : x.run caller m = ⟨.error stop, m', t⟩) :
    ∃ y m₁, Reaches caller x m t y m₁ ∧ Stuck caller y m₁ stop m' := by
  induction x generalizing m t with
  | ret a => cases h
  | trap tr =>
    cases h
    exact ⟨_, _, .refl _ _, .trap tr _⟩
  | pages next ih => exact exists_stuck_of_step (.pages _ next) h (ih _)
  | grow delta next ih =>
    cases hg : m.memory.grow? delta.toNat with
    | none => exact exists_stuck_of_step (.full hg) h (ih _)
    | some memory => exact exists_stuck_of_step (.grow hg) h (ih _)
  | load addr len next ih =>
    cases hl : m.memory.load? addr len with
    | none =>
      simp only [run, hl] at h
      cases h
      exact ⟨_, _, .refl _ _, .load next hl⟩
    | some bytes => exact exists_stuck_of_step (.load hl) h (ih _)
  | store addr bytes next ih =>
    cases hs : m.memory.store? addr bytes with
    | none =>
      simp only [run, hs] at h
      cases h
      exact ⟨_, _, .refl _ _, .store next hs⟩
    | some memory => exact exists_stuck_of_step (.store hs) h ih
  | fill addr byte len next ih =>
    cases hf : m.memory.fill? addr byte len with
    | none =>
      simp only [run, hf] at h
      cases h
      exact ⟨_, _, .refl _ _, .fill next hf⟩
    | some memory => exact exists_stuck_of_step (.fill hf) h ih
  | global i next ih => exact exists_stuck_of_step (.global _ i next) h (ih _)
  | setGlobal i v next ih => exact exists_stuck_of_step (.setGlobal _ i v next) h ih
  | host c next ih =>
    rcases hc : Machine.answer caller c m with ⟨e | _, m₁, t₁⟩
    · simp only [run, hc] at h
      cases h
      obtain ⟨hdenial, rfl⟩ := Machine.denial_of_answer hc
      exact ⟨_, _, .refl _ _, .host next hdenial⟩
    · exact exists_stuck_of_step (.host hc) h ih

end Code

end GuestHost
