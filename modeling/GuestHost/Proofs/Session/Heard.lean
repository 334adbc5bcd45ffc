import GuestHost.Proofs.Input.History
import GuestHost.Proofs.Session.Lifecycle

/-! What the input hears of: ticks, gamepads that come and go, boots, and those keys that are not
bound to an action. -/
namespace GuestHost

namespace Arbiter

open InputStep

variable {a : Arbiter} {k : Modifier} {code : UInt32}

/-- Only the key of a modifier sets its bit. -/
theorem in_keyMask_of_act (hk : KeyEvent.modifier? code = some k) {x : InputStep}
    (hx : ∀ e, x = .key e → e.code ≠ code) (h : k.In (x.act a).keyMask) : k.In a.keyMask := by
  cases x with
  | key e =>
    rcases in_keyMaskAfter.mp h with ⟨hsame, -⟩ | ⟨-, hin⟩
    · have hcode : e.code = code :=
        (KeyEvent.modifier?_eq_some_iff.mp hsame).trans (KeyEvent.modifier?_eq_some_iff.mp hk).symm
      exact absurd hcode (hx e rfl)
    · exact hin
  | connect index standard => cases standard <;> exact h
  | disconnect index =>
    unfold act disconnect at h
    dsimp only at h
    split_ifs at h <;> exact h
  | poll pads =>
    unfold act poll at h
    dsimp only at h
    split_ifs at h <;> exact h
  | reset => exact absurd h (Modifier.not_in_zero k)

theorem in_keyMask_of_foldl (hk : KeyEvent.modifier? code = some k) {steps : List InputStep}
    (hsteps : ∀ e, .key e ∈ steps → e.code ≠ code)
    (h : k.In (steps.foldl (fun a x => x.act a) a).keyMask) : k.In a.keyMask := by
  induction steps generalizing a with
  | nil => exact h
  | cons x rest ih =>
    refine in_keyMask_of_act hk ?_ (ih (fun e he => hsteps e (List.mem_cons_of_mem _ he)) h)
    rintro e rfl
    exact hsteps e List.mem_cons_self

end Arbiter

namespace Session

/-- Of all key events the input has heard at most those in `P`. -/
structure HearsOnly (P : KeyEvent → Prop) (s : Session) (t : List Output) (s' : Session) :
    Prop where
  config : s'.config = s.config
  input : ∃ steps : List InputStep, s'.input = steps.foldl (fun a x => x.act a) s.input ∧
    ∀ e, .key e ∈ steps → P e

variable {P : KeyEvent → Prop} {s s' : Session} {t : List Output}

theorem hearsOnly_law : Act.Law (HearsOnly P) where
  refl s := ⟨rfl, [], rfl, nofun⟩
  trans h h' := by
    obtain ⟨steps, hinput, hkeys⟩ := h.input
    obtain ⟨steps', hinput', hkeys'⟩ := h'.input
    refine ⟨h'.config.trans h.config, steps ++ steps', ?_, fun e he => ?_⟩
    · rw [List.foldl_append, ← hinput, hinput']
    · exact (List.mem_append.mp he).elim (hkeys e) (hkeys' e)

/-- What leaves the settings and the input alone. -/
theorem hearsOnly_same (t : List Output) (hconfig : s'.config = s.config)
    (hinput : s'.input = s.input) : HearsOnly P s t s' :=
  ⟨hconfig, [], hinput, nofun⟩

theorem hearsOnly_step (t : List Output) (x : InputStep) (hx : ∀ e, x = .key e → P e)
    (hconfig : s'.config = s.config) (hinput : s'.input = x.act s.input) : HearsOnly P s t s' := by
  refine ⟨hconfig, [x], hinput, fun e he => hx e ?_⟩
  exact (List.mem_singleton.mp he).symm

theorem hearsOnly_onVm {α : Type} (x : Act Error Vm α) : Act.Keeps (HearsOnly P) (onVm x) :=
  fun _ => hearsOnly_same _ rfl rfl

theorem hearsOnly_note (n : Notice) : Act.Keeps (HearsOnly P) (Act.note n : Act Error Session Unit) :=
  fun _ => hearsOnly_same _ rfl rfl

/-- What comes after the guard. -/
theorem hearsOnly_guarded {x : Act Error Session Unit} (hx : Act.Keeps (HearsOnly P) x) :
    Act.Keeps (HearsOnly P) (requireRunning >>= fun _ => x) :=
  .bind hearsOnly_law hearsOnly_law.refl fun _ => hx

theorem hearsOnly_gesture : Act.Keeps (HearsOnly P) (gesture : Act Error Session Unit) :=
  fun _ => hearsOnly_same _ rfl rfl

theorem hearsOnly_boot : Act.Keeps (HearsOnly P) boot := by
  intro s
  have hconfig : (boot s).state.config = s.config := (sameSetup_act .boot s).config
  exact hearsOnly_step _ .reset nofun hconfig (booted_boot s).input

theorem hearsOnly_reset : Act.Keeps (HearsOnly P) reset :=
  .bind hearsOnly_law (hearsOnly_note _) fun _ => hearsOnly_boot

theorem hearsOnly_update (pads : Gamepads) : Act.Keeps (HearsOnly P) (update pads) := by
  intro s
  have hpoll : HearsOnly P s [] { s with input := (s.input.poll pads).1 } :=
    hearsOnly_step [] (.poll pads) nofun rfl rfl
  by_cases hs : s.lifecycle = .running
  · cases hc : (s.input.poll pads).2 with
    | none =>
      rw [update_of_unchanged hs hc]
      exact hearsOnly_law.trans hpoll (hearsOnly_onVm _ _)
    | some i =>
      rw [update_of_changed hs hc]
      have hrest : Act.Keeps (HearsOnly P) (onVm (Vm.keyboard i) >>= fun _ => onVm Vm.update) :=
        .bind hearsOnly_law (hearsOnly_onVm _) fun _ => hearsOnly_onVm _
      exact hearsOnly_law.trans hpoll (hrest _)
  · rw [update_of_not_running hs]
    exact hearsOnly_law.refl s

theorem hearsOnly_forwardKey {e : KeyEvent} (he : P e) : Act.Keeps (HearsOnly P) (forwardKey e) := by
  intro s
  by_cases hs : s.lifecycle = .running
  · rw [forwardKey_of_running hs]
    refine hearsOnly_step _ (.key e) ?_ rfl rfl
    rintro _ ⟨⟩
    exact he
  · rw [forwardKey_of_not_running hs]
    exact hearsOnly_law.refl s

theorem hearsOnly_save : Act.Keeps (HearsOnly P) save :=
  hearsOnly_guarded <| .bind hearsOnly_law (hearsOnly_onVm _) fun _ =>
    .bind hearsOnly_law (hearsOnly_note _) fun _ _ => hearsOnly_same _ rfl rfl

theorem hearsOnly_restore : Act.Keeps (HearsOnly P) restore := by
  refine hearsOnly_guarded (.bind hearsOnly_law (.get hearsOnly_law) fun s => ?_)
  cases s.snapshot with
  | none => exact hearsOnly_note _
  | some snapshot => exact .bind hearsOnly_law (hearsOnly_onVm _) fun _ => hearsOnly_note _

theorem hearsOnly_obey (k : Hotkey) : Act.Keeps (HearsOnly P) (obey k) := by
  refine .bind hearsOnly_law (hearsOnly_note _) fun _ => ?_
  cases k with
  | save => exact hearsOnly_save
  | restore => exact hearsOnly_restore
  | reset => exact hearsOnly_reset

theorem hearsOnly_pointer (e : PointerEvent) (b : Bounds) :
    Act.Keeps (HearsOnly P) (pointer e b) := by
  have hrest : Act.Keeps (HearsOnly P) (do
      requireRunning
      let s ← Act.get
      onVm (Vm.pointer (s.input.pointer e b))) :=
    hearsOnly_guarded (.bind hearsOnly_law (.get hearsOnly_law) fun s => hearsOnly_onVm _)
  exact .ite (.bind hearsOnly_law hearsOnly_gesture fun _ => hrest) hrest

theorem hearsOnly_answerPull (chunk : Chunk) (live : Bool) :
    Act.Keeps (HearsOnly P) (answerPull chunk live) := by
  intro s
  by_cases hs : s.lifecycle = .running
  · simp only [answerPull, pullChunk_of_running hs]
    exact hearsOnly_same _ rfl rfl
  · rw [answerPull_of_ok live (pullChunk_of_not_running hs chunk)]
    exact hearsOnly_same _ rfl rfl

/-- The input hears a key only if it is not bound. -/
theorem hearsOnly_keyboard {e : KeyEvent} (he : s.config.hotkeys.find? e.code = none → P e) :
    HearsOnly P s (keyboard e s).trace (keyboard e s).state := by
  cases hd : e.state with
  | up =>
    rw [keyboard_of_up hd]
    cases hk : s.config.hotkeys.find? e.code with
    | none => exact hearsOnly_forwardKey (he hk) s
    | some k => exact hearsOnly_law.refl s
  | down =>
    rw [keyboard_of_down hd]
    refine Act.Keeps.bind_at hearsOnly_law (hearsOnly_gesture s) fun _ => ?_
    cases hk : s.config.hotkeys.find? e.code with
    | none => exact hearsOnly_forwardKey (he hk)
    | some k => exact hearsOnly_obey k

theorem hearsOnly_perform {e : Event}
    (he : ∀ e', e = .key e' → s.config.hotkeys.find? e'.code = none → P e') :
    HearsOnly P s (perform e s).trace (perform e s).state := by
  cases e with
  | frame pads => exact hearsOnly_update pads s
  | pointer e b => exact hearsOnly_pointer e b s
  | wheel delta => exact hearsOnly_guarded (hearsOnly_onVm _) s
  | key e => exact hearsOnly_keyboard (he e rfl)
  | contextMenu => exact hearsOnly_law.refl s
  | padConnected index standard => exact hearsOnly_step _ (.connect index standard) nofun rfl rfl
  | padDisconnected index => exact hearsOnly_step _ (.disconnect index) nofun rfl rfl
  | audioPull chunk live => exact hearsOnly_answerPull chunk live s
  | save => exact hearsOnly_save s
  | restore => exact hearsOnly_restore s
  | reset => exact hearsOnly_reset s

theorem hearsOnly_dispatch {e : Event}
    (he : ∀ e', e = .key e' → s.config.hotkeys.find? e'.code = none → P e') :
    HearsOnly P s (dispatch e s).trace (dispatch e s).state := by
  have h := hearsOnly_perform he
  rw [(dispatch_same e s).1]
  exact ⟨h.config, h.input⟩

/-- By induction on the events, whose settings are those of the beginning throughout. -/
theorem hearsOnly_drain {events : List Event}
    (he : ∀ e, .key e ∈ events → s.config.hotkeys.find? e.code = none → P e) :
    HearsOnly P s (drain events s).trace (drain events s).state := by
  induction events generalizing s with
  | nil => exact hearsOnly_law.refl s
  | cons e rest ih =>
    have hfirst := hearsOnly_dispatch (s := s) (e := e) fun e' h => he e' (h ▸ List.mem_cons_self)
    rcases hd : dispatch e s with ⟨err | d, s', t⟩ <;> rw [hd] at hfirst
    · rw [drain, Act.bind_of_error hd]
      exact hfirst
    · rw [drain, Act.bind_of_ok hd]
      refine hearsOnly_law.trans hfirst (ih fun e' h => ?_)
      rw [hfirst.config]
      exact he e' (List.mem_cons_of_mem _ h)

theorem hearsOnly_performAll {events : List Event}
    (he : ∀ e, .key e ∈ events → s.config.hotkeys.find? e.code = none → P e) :
    HearsOnly P s (performAll (events.map .dispatch) s).trace
      (performAll (events.map .dispatch) s).state := by
  induction events generalizing s with
  | nil => exact hearsOnly_law.refl s
  | cons e rest ih =>
    have hfirst := hearsOnly_dispatch (s := s) (e := e) fun e' h => he e' (h ▸ List.mem_cons_self)
    rw [List.map_cons, performAll_cons, act_dispatch]
    refine hearsOnly_law.trans hfirst (ih fun e' h => ?_)
    rw [hfirst.config]
    exact he e' (List.mem_cons_of_mem _ h)

end Session

end GuestHost
