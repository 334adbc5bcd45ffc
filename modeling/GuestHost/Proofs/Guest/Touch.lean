import GuestHost.Proofs.Display.Frames

/-! Guest memory change by change. In a run of guest code all changes are the guest's own, except
for the time that the host tells when it is asked for it. -/
namespace GuestHost

/-- A change of guest memory. Only the last kind is made by the host. -/
inductive Touch where
  | grown (delta : Nat)
  | stored (addr : Nat) (bytes : ByteArray)
  | filled (addr : Nat) (byte : UInt8) (len : Nat)
  | written (addr : UInt32) (bytes : ByteArray)

namespace Touch

def byHost : Touch → Bool
  | written .. => true
  | _ => false

/-- The memory after the change, if it has room for it. -/
def after? (memory : Memory) : Touch → Option Memory
  | grown delta => memory.grow? delta
  | stored addr bytes => memory.store? addr bytes
  | filled addr byte len => memory.fill? addr byte len
  | written addr bytes => (memory.write addr bytes).toOption

/-- The addresses that the change is about. Those that growth adds are new ones. -/
def Covers (i : Nat) : Touch → Prop
  | grown _ => False
  | stored addr bytes => addr ≤ i ∧ i < addr + bytes.size
  | filled addr _ len => addr ≤ i ∧ i < addr + len
  | written addr bytes => addr.toNat ≤ i ∧ i < addr.toNat + bytes.size

/-- One change after another. -/
def replay? (memory : Memory) (touches : List Touch) : Option Memory :=
  touches.foldlM after? memory

/-- No byte is lost, and none changes that the change is not about. The host's changes do not resize
the memory. -/
structure Leaves (touch : Touch) (before after : Memory) : Prop where
  size : before.size ≤ after.size
  bytes : ∀ i < before.size, ¬touch.Covers i →
    Bytes.byteAt after.bytes i = Bytes.byteAt before.bytes i
  host : touch.byHost = true → after.size = before.size ∧ after.maxPages = before.maxPages

variable {touch : Touch} {memory memory' : Memory}

theorem leaves_put {addr : Nat} {bytes : ByteArray} (h : addr + bytes.size ≤ memory.size)
    (hcovers : ∀ i, addr ≤ i ∧ i < addr + bytes.size → touch.Covers i) :
    touch.Leaves memory (memory.put addr bytes) where
  size := Nat.le_of_eq (Memory.size_put h).symm
  bytes i _ hi := by rw [Memory.byteAt_put h, if_neg fun hin => hi (hcovers i hin)]
  host _ := ⟨Memory.size_put h, rfl⟩

/-- One case for each kind of change. -/
theorem leaves_of_after (h : touch.after? memory = some memory') : touch.Leaves memory memory' := by
  cases touch with
  | grown delta =>
    obtain ⟨-, ⟨⟩⟩ := Option.ite_none_right_eq_some.mp h
    refine ⟨?_, fun i hi _ => ?_, nofun⟩
    · change memory.bytes.size ≤ (memory.bytes ++ _).size
      rw [ByteArray.size_append]
      exact Nat.le_add_right _ _
    · exact (Bytes.byteAt_append _ _ i).trans (if_pos hi)
  | stored addr bytes =>
    obtain ⟨hfits, ⟨⟩⟩ := Option.ite_none_right_eq_some.mp h
    exact leaves_put hfits fun _ => id
  | filled addr byte len =>
    obtain ⟨hfits, ⟨⟩⟩ := Option.ite_none_right_eq_some.mp h
    rw [← Bytes.size_replicate len byte] at hfits
    refine leaves_put hfits fun i hi => ?_
    rwa [Bytes.size_replicate] at hi
  | written addr bytes =>
    change (memory.write addr bytes).toOption = some memory' at h
    cases hw : memory.write addr bytes with
    | error e =>
      rw [hw] at h
      cases h
    | ok after =>
      rw [hw] at h
      cases h
      obtain ⟨hfits, rfl⟩ := Memory.put_of_write hw
      exact leaves_put hfits fun _ => id

theorem after?_written {addr : UInt32} {bytes : ByteArray}
    (h : memory.write addr bytes = .ok memory') :
    (written addr bytes).after? memory = some memory' :=
  congrArg Except.toOption h

theorem replay?_cons (touches : List Touch) (h : touch.after? memory = some memory') :
    replay? memory (touch :: touches) = replay? memory' touches := by
  rw [replay?, List.foldlM_cons, h]
  rfl

theorem replay?_append {touches : List Touch} (touches' : List Touch)
    (h : replay? memory touches = some memory') :
    replay? memory (touches ++ touches') = replay? memory' touches' := by
  rw [replay?, List.foldlM_append]
  change (replay? memory touches >>= _) = _
  rw [h]
  rfl

/-- By induction on the changes: a byte that none of them is about is never changed. -/
theorem kept_of_replay {touches : List Touch} (h : replay? memory touches = some memory') :
    memory.size ≤ memory'.size ∧ ∀ i < memory.size, (∀ touch ∈ touches, ¬touch.Covers i) →
      Bytes.byteAt memory'.bytes i = Bytes.byteAt memory.bytes i := by
  induction touches generalizing memory with
  | nil =>
    cases h
    exact ⟨Nat.le_refl _, fun _ _ _ => rfl⟩
  | cons touch rest ih =>
    cases hfirst : touch.after? memory with
    | none =>
      rw [replay?, List.foldlM_cons, hfirst] at h
      cases h
    | some memory₁ =>
      rw [replay?_cons rest hfirst] at h
      have hleaves := leaves_of_after hfirst
      obtain ⟨hsize, hrest⟩ := ih h
      refine ⟨Nat.le_trans hleaves.size hsize, fun i hi hnot => ?_⟩
      obtain ⟨htouch, hothers⟩ := List.forall_mem_cons.mp hnot
      exact (hrest i (Nat.lt_of_lt_of_le hi hleaves.size) hothers).trans (hleaves.bytes i hi htouch)

/-- The guest's own changes are none of the host's. -/
theorem mem_of_mem_cons {addr : UInt32} {bytes : ByteArray} {touches : List Touch}
    (h : .written addr bytes ∈ touch :: touches) (hown : touch.byHost = false) :
    .written addr bytes ∈ touches := by
  rcases List.mem_cons.mp h with rfl | hrest
  · cases hown
  · exact hrest

end Touch

/-- What the host changes of memory for a call that it answers. -/
def HostCall.touch? (m : Machine) : HostCall → Option Touch
  | .getDateTime out => some (.written out (m.clock m.readings).record)
  | _ => none

/-- The changes that a run of the code makes, in their order. -/
def Code.touches {α : Type} (caller : Caller) : Code α → Machine → List Touch
  | .ret _ => fun _ => []
  | .trap _ => fun _ => []
  | .pages next => fun m => (next m.memory.pages.toUInt32).touches caller m
  | .grow delta next => fun m => match m.memory.grow? delta.toNat with
    | some memory =>
      .grown delta.toNat :: (next m.memory.pages.toUInt32).touches caller { m with memory }
    | none => (next noPages).touches caller m
  | .load addr len next => fun m => match m.memory.load? addr len with
    | some bytes => (next bytes).touches caller m
    | none => []
  | .store addr bytes next => fun m => match m.memory.store? addr bytes with
    | some memory => .stored addr bytes :: next.touches caller { m with memory }
    | none => []
  | .fill addr byte len next => fun m => match m.memory.fill? addr byte len with
    | some memory => .filled addr byte len :: next.touches caller { m with memory }
    | none => []
  | .global i next => fun m => (next (m.globals i)).touches caller m
  | .setGlobal i v next => fun m => next.touches caller
      { m with globals := fun j => if j = i then v else m.globals j }
  | .host c next => fun m => match Machine.answer caller c m with
    | ⟨.ok (), m', _⟩ => (c.touch? m).toList ++ next.touches caller m'
    | ⟨.error _, _, _⟩ => []

def Routine.touches {α : Type} (r : Routine α) (m : Machine) : List Touch :=
  r.code.touches r.caller m

namespace Machine

/-- What an answered call may change: printing the console, a render the compositor, and only the
time is told in memory. -/
def Answered (m : Machine) : HostCall → Machine → Prop
  | .printChar _, m' => ∃ console, m' = { m with console }
  | .printStr _, m' => ∃ console, m' = { m with console }
  | .render _ _, m' => ∃ compositor, m' = { m with compositor }
  | .getDateTime out, m' => ∃ memory,
    m.memory.write out (m.clock m.readings).record = .ok memory ∧
      m' = { m with memory, readings := m.readings + 1 }

/-- An answered call changes one thing; one that fails changes nothing and shows nothing, though the
clock has been read for it if it asks for the time. -/
structure Atomic (m : Machine) (c : HostCall) (o : Outcome Error Machine Unit) : Prop where
  answered : o.result = .ok () → m.Answered c o.state
  refused : ∀ e, o.result = .error e →
    o.state = { m with readings := m.readings + c.readings } ∧ o.trace = []

section Atomic

variable {m : Machine} {caller : Caller} {c : HostCall}

theorem Atomic.of_error {e : Error} {o : Outcome Error Machine Unit}
    (h : o = ⟨.error e, { m with readings := m.readings + c.readings }, []⟩) : m.Atomic c o := by
  subst h
  exact ⟨nofun, fun _ _ => ⟨rfl, rfl⟩⟩

theorem Atomic.of_ok {o : Outcome Error Machine Unit} (hr : o.result = .ok ())
    (h : m.Answered c o.state) : m.Atomic c o :=
  ⟨fun _ => h, fun _ he => nomatch hr.symm.trans he⟩

theorem atomic_printStr (hm : m.finds caller = true) (ptr : UInt32) :
    m.Atomic (.printStr ptr) (printStr caller ptr m) := by
  rw [printStr, Act.bind_of_silent (exportedMemory_eq hm)]
  cases terminatedText m.memory.bytes ptr with
  | error e => exact .of_error rfl
  | ok text => exact .of_ok rfl ⟨_, rfl⟩

theorem atomic_render (hm : m.finds caller = true) (bg fg : UInt32) :
    m.Atomic (.render bg fg) (render caller bg fg m) := by
  rw [render, Act.bind_of_silent (exportedMemory_eq hm), Act.get_bind]
  cases m.compositor.render m.memory.bytes bg fg with
  | error e => exact .of_error rfl
  | ok c => exact .of_ok rfl ⟨c, rfl⟩

theorem atomic_getDateTime (hm : m.finds caller = true) (out : UInt32) :
    m.Atomic (.getDateTime out) (getDateTime caller out m) := by
  rw [getDateTime_eq hm]
  cases hw : m.memory.write out (m.clock m.readings).record with
  | error e => exact .of_error rfl
  | ok memory => exact .of_ok rfl ⟨memory, hw, rfl⟩

theorem atomic_answer (m : Machine) (caller : Caller) (c : HostCall) :
    m.Atomic c (answer caller c m) := by
  cases hm : m.finds caller with
  | true =>
    cases c with
    | printChar code => exact .of_ok rfl ⟨_, rfl⟩
    | printStr ptr => exact atomic_printStr hm ptr
    | render bg fg => exact atomic_render hm bg fg
    | getDateTime out => exact atomic_getDateTime hm out
  | false =>
    cases hc : c.usesMemory with
    | true => exact .of_error (answer_of_homeless hm hc)
    | false =>
      cases c with
      | printChar code => exact .of_ok rfl ⟨_, rfl⟩
      | _ => cases hc

end Atomic

end Machine

namespace Code

variable {α : Type} {caller : Caller} {m m' : Machine}

/-- The one call that changes memory changes it as the time is told. -/
theorem replay?_answered {c : HostCall} (h : m.Answered c m') (touches : List Touch) :
    Touch.replay? m.memory ((c.touch? m).toList ++ touches) = Touch.replay? m'.memory touches := by
  cases c with
  | printChar code =>
    obtain ⟨console, rfl⟩ := h
    rfl
  | printStr ptr =>
    obtain ⟨console, rfl⟩ := h
    rfl
  | render bg fg =>
    obtain ⟨compositor, rfl⟩ := h
    rfl
  | getDateTime out =>
    obtain ⟨memory, hw, rfl⟩ := h
    exact Touch.replay?_cons touches (Touch.after?_written hw)

/-- By induction on the code: what its first step changes comes before what the rest of it does. -/
theorem replay?_touches (code : Code α) (m : Machine) :
    Touch.replay? m.memory (code.touches caller m) = some (code.run caller m).state.memory := by
  induction code generalizing m with
  | ret a => rfl
  | trap t => rfl
  | pages next ih => exact ih _ m
  | grow delta next ih =>
    cases hm : m.memory.grow? delta.toNat <;> simp only [touches, run, hm]
    case none => exact ih noPages m
    case some memory =>
      have hfirst : (Touch.grown delta.toNat).after? m.memory = some memory := hm
      rw [Touch.replay?_cons _ hfirst]
      exact ih _ { m with memory }
  | load addr len next ih =>
    cases hm : m.memory.load? addr len <;> simp only [touches, run, hm]
    case none => rfl
    case some bytes => exact ih bytes m
  | store addr bytes next ih =>
    cases hm : m.memory.store? addr bytes <;> simp only [touches, run, hm]
    case none => rfl
    case some memory =>
      have hfirst : (Touch.stored addr bytes).after? m.memory = some memory := hm
      rw [Touch.replay?_cons _ hfirst]
      exact ih { m with memory }
  | fill addr byte len next ih =>
    cases hm : m.memory.fill? addr byte len <;> simp only [touches, run, hm]
    case none => rfl
    case some memory =>
      have hfirst : (Touch.filled addr byte len).after? m.memory = some memory := hm
      rw [Touch.replay?_cons _ hfirst]
      exact ih { m with memory }
  | global i next ih => exact ih _ m
  | setGlobal i v next ih =>
    exact ih { m with globals := fun j => if j = i then v else m.globals j }
  | host c next ih =>
    obtain ⟨hanswered, hrefused⟩ := Machine.atomic_answer m caller c
    rcases hm : Machine.answer caller c m with ⟨e | _, m', t⟩ <;> rw [hm] at hanswered hrefused <;>
      simp only [touches, run, hm]
    · obtain ⟨hstate, -⟩ := hrefused e rfl
      dsimp only at hstate
      rw [hstate]
      rfl
    · exact (replay?_answered (hanswered rfl) _).trans (ih m')

/-- The host changes nothing but for a call of the code, and then as that call finds the clock. -/
theorem asked_of_mem_touches {addr : UInt32} {bytes : ByteArray} (code : Code α) (m : Machine)
    (h : .written addr bytes ∈ code.touches caller m) :
    ∃ m', (m', .getDateTime addr) ∈ code.asks caller m ∧ bytes = (m'.clock m'.readings).record := by
  induction code generalizing m with
  | ret a => cases h
  | trap t => cases h
  | pages next ih => exact ih _ m h
  | grow delta next ih =>
    cases hm : m.memory.grow? delta.toNat <;> simp only [touches, hm] at h <;>
      simp only [asks, hm]
    case none => exact ih noPages m h
    case some memory => exact ih _ _ (Touch.mem_of_mem_cons h rfl)
  | load addr len next ih =>
    cases hm : m.memory.load? addr len <;> simp only [touches, hm] at h <;> simp only [asks, hm]
    case none => cases h
    case some bytes => exact ih bytes m h
  | store addr bytes next ih =>
    cases hm : m.memory.store? addr bytes <;> simp only [touches, hm] at h <;>
      simp only [asks, hm]
    case none => cases h
    case some memory => exact ih _ (Touch.mem_of_mem_cons h rfl)
  | fill addr byte len next ih =>
    cases hm : m.memory.fill? addr byte len <;> simp only [touches, hm] at h <;>
      simp only [asks, hm]
    case none => cases h
    case some memory => exact ih _ (Touch.mem_of_mem_cons h rfl)
  | global i next ih => exact ih _ m h
  | setGlobal i v next ih => exact ih _ h
  | host c next ih =>
    rcases hm : Machine.answer caller c m with ⟨e | _, m', t⟩ <;> simp only [touches, hm] at h <;>
      simp only [asks, hm]
    · cases h
    · rcases List.mem_append.mp h with hfirst | hrest
      · cases c with
        | getDateTime out =>
          cases List.mem_singleton.mp hfirst
          exact ⟨m, List.mem_cons_self, rfl⟩
        | _ => cases hfirst
      · obtain ⟨m₁, hask, hbytes⟩ := ih m' hrest
        exact ⟨m₁, List.mem_cons_of_mem _ hask, hbytes⟩

end Code

end GuestHost
