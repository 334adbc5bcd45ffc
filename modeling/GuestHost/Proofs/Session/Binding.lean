import GuestHost.Proofs.Session.Latch

/-! Gamepads that come and go. Of all that a session does only a tick looks at the binding, and so
it does not matter which of the two comes first: the event of a gamepad, or any other. -/
namespace GuestHost

/-- Whether the event is that of a gamepad that comes or goes. -/
def Event.binds : Event → Bool
  | .padConnected .. => true
  | .padDisconnected _ => true
  | _ => false

/-- The gamepad that is bound behind the event. -/
def Event.boundAfter (bound : Option UInt32) : Event → Option UInt32
  | .padConnected index standard => if standard then some index else bound
  | .padDisconnected index => if bound = some index then none else bound
  | _ => bound

/-- What is said of the binding. -/
def Event.bindingNotices (bound : Option UInt32) : Event → List Notice
  | .padConnected index standard => Session.connectNotices bound index standard
  | .padDisconnected index => if bound = some index then [.padUnbound index] else []
  | _ => []

namespace Session

variable {α β : Type} {s : Session}

/-- The session with this gamepad bound, or none. -/
def rebound (s : Session) (bound : Option UInt32) : Session :=
  { s with input := { s.input with boundPad := bound } }

/-- From `s` the action ends in the same way whatever is bound, and leaves it bound. -/
def BlindAt (s : Session) (x : Act Error Session α) : Prop :=
  ∀ bound, x (s.rebound bound) = ⟨(x s).result, (x s).state.rebound bound, (x s).trace⟩

def Blind (x : Act Error Session α) : Prop :=
  ∀ s : Session, s.BlindAt x

namespace BlindAt

variable {x y : Act Error Session α} {f : α → Act Error Session β}

theorem boundPad (h : s.BlindAt x) : (x s).state.input.boundPad = s.input.boundPad := by
  have hsame := congrArg (fun o => o.state.input.boundPad) (h s.input.boundPad)
  exact hsame

theorem congr (h : ∀ bound, y (s.rebound bound) = x (s.rebound bound)) (hx : s.BlindAt x) :
    s.BlindAt y := by
  have hs : y s = x s := h s.input.boundPad
  intro bound
  rw [h, hs]
  exact hx bound

theorem bind (hx : s.BlindAt x) (hf : ∀ a, (x s).state.BlindAt (f a)) : s.BlindAt (x >>= f) := by
  intro bound
  have hb := hx bound
  rcases hxs : x s with ⟨e | a, s', t⟩ <;> rw [hxs] at hb
  · rw [Act.bind_of_error hb, Act.bind_of_error hxs]
  · have hnext : s'.BlindAt (f a) := by
      have h := hf a
      rwa [hxs] at h
    rw [Act.bind_of_ok hb, Act.bind_of_ok hxs, hnext bound]

end BlindAt

namespace Blind

variable {x y : Act Error Session α} {f : α → Act Error Session β}

theorem pure (a : α) : Blind (Pure.pure a) :=
  fun _ _ => rfl

theorem fail (e : Error) : Blind (Act.fail e : Act Error Session α) :=
  fun _ _ => rfl

theorem note (n : Notice) : Blind (Act.note n) :=
  fun _ _ => rfl

theorem modify {g : Session → Session} (h : ∀ s bound, g (s.rebound bound) = (g s).rebound bound) :
    Blind (Act.modify g) := by
  intro s bound
  change (⟨_, g (s.rebound bound), _⟩ : Outcome _ _ _) = _
  rw [h]
  rfl

/-- The guest knows nothing of gamepads. -/
theorem onVm (x : Act Error Vm α) : Blind (onVm x) :=
  fun _ _ => rfl

theorem bind (hx : Blind x) (hf : ∀ a, Blind (f a)) : Blind (x >>= f) :=
  fun s => (hx s).bind fun a => hf a _

/-- What is read of the session is not the binding. -/
theorem get {f : Session → Act Error Session α} (h : ∀ s bound, f (s.rebound bound) = f s)
    (hf : ∀ s, Blind (f s)) : Blind (Act.get >>= f) := by
  intro s bound
  rw [Act.get_bind, Act.get_bind, h]
  exact hf s s bound

theorem attempt (hx : Blind x) : Blind (Act.attempt x : Act Error Session (Except Error α)) := by
  intro s bound
  simp only [Act.attempt, hx s bound]

theorem ite {c : Prop} [Decidable c] (hx : Blind x) (hy : Blind y) :
    Blind (if c then x else y) := by
  split
  · exact hx
  · exact hy

end Blind

theorem blind_requireRunning : Blind requireRunning :=
  fun _ _ => rfl

theorem blind_gesture : Blind gesture :=
  fun _ _ => rfl

theorem blind_bringUp : Blind bringUp := by
  refine .bind (.modify fun _ _ => rfl) fun _ => .bind (.onVm _) fun _ => ?_
  refine .get (fun _ _ => rfl) fun s => ?_
  have hload : Blind (Session.onVm Vm.romAddress >>= fun ptr => s.loadAt ptr) := by
    refine .bind (.onVm _) fun ptr => .bind (.onVm _) fun _ => .bind (.note _) fun _ => ?_
    refine .bind (.onVm _) fun ran => ?_
    cases ran with
    | true => exact .onVm _
    | false => exact .bind (.note _) fun _ => .onVm _
  split
  · exact .bind (.note _) fun _ => hload
  · exact hload

/-- The binding survives a boot, whether or not it succeeds. -/
theorem blind_boot : Blind boot := by
  refine .bind (.note _) fun _ => .bind (.modify fun _ _ => rfl) fun _ => ?_
  refine .bind (.attempt blind_bringUp) fun r => ?_
  cases r with
  | ok _ => exact .bind (.modify fun _ _ => rfl) fun _ => .note _
  | error e => exact .bind (.modify fun _ _ => rfl) fun _ => .bind (.note _) fun _ => .fail e

theorem blind_reset : Blind reset :=
  .bind (.note _) fun _ => blind_boot

theorem blind_save : Blind save := by
  refine .bind blind_requireRunning fun _ => .bind (.onVm _) fun snapshot => ?_
  exact .bind (.note _) fun _ => .modify fun _ _ => rfl

theorem blind_restore : Blind restore := by
  refine .bind blind_requireRunning fun _ => .get (fun _ _ => rfl) fun s => ?_
  cases s.snapshot with
  | none => exact .note _
  | some snapshot => exact .bind (.onVm _) fun _ => .note _

theorem blind_pointer (e : PointerEvent) (b : Bounds) : Blind (pointer e b) := by
  have hrest : Blind (requireRunning >>= fun _ => Act.get >>= fun s =>
      Session.onVm (Vm.pointer (s.input.pointer e b))) :=
    .bind blind_requireRunning fun _ => .get (fun _ _ => rfl) fun _ => .onVm _
  intro s
  by_cases he : e.kind = .down
  · exact .congr (fun _ => pointer_of_down he b _) (.bind (blind_gesture s) fun _ => hrest _)
  · exact .congr (fun _ => pointer_of_not_down he b _) (hrest s)

theorem blind_wheel (delta : Binary64) : Blind (wheel delta) :=
  .bind blind_requireRunning fun _ => .onVm _

theorem blind_obey (k : Hotkey) : Blind (obey k) := by
  refine .bind (.note _) fun _ => ?_
  cases k with
  | save => exact blind_save
  | restore => exact blind_restore
  | reset => exact blind_reset

theorem blind_forwardKey (e : KeyEvent) : Blind (forwardKey e) := by
  intro s bound
  by_cases h : s.lifecycle = .running
  · rw [forwardKey_of_running h, forwardKey_of_running (s := s.rebound bound) h]
    rfl
  · rw [forwardKey_of_not_running h, forwardKey_of_not_running (s := s.rebound bound) h]

theorem blind_keyboard (e : KeyEvent) : Blind (keyboard e) := by
  unfold keyboard
  refine .ite (.bind blind_gesture fun _ => .get (fun _ _ => rfl) fun s => ?_)
    (.get (fun _ _ => rfl) fun s => ?_)
  all_goals
    split
    · exact blind_obey _
    · exact .pure ()
    · exact blind_forwardKey e

theorem blind_answerPull (chunk : Chunk) (live : Bool) : Blind (answerPull chunk live) := by
  intro s bound
  by_cases h : s.lifecycle = .running
  · simp only [answerPull, pullChunk_of_running h,
      pullChunk_of_running (s := s.rebound bound) h]
    rfl
  · simp only [answerPull, pullChunk_of_not_running h,
      pullChunk_of_not_running (s := s.rebound bound) h]
    rfl

/-- Whether the event has to do with the binding: it polls the gamepad, or is itself that of a
gamepad. -/
def heedsPad (s : Session) : Event → Bool
  | .frame _ => s.lifecycle = .running
  | e => e.binds

/-- One case for each kind of event. -/
theorem blindAt_perform {e : Event} (h : s.heedsPad e = false) : s.BlindAt (perform e) := by
  cases e with
  | frame pads =>
    have hs : s.lifecycle ≠ .running := of_decide_eq_false h
    intro bound
    rw [perform, update_of_not_running hs, update_of_not_running (s := s.rebound bound) hs]
  | pointer e b => exact blind_pointer e b s
  | wheel delta => exact blind_wheel delta s
  | key e => exact blind_keyboard e s
  | contextMenu => exact Blind.pure () s
  | padConnected index standard => cases h
  | padDisconnected index => cases h
  | audioPull chunk live => exact blind_answerPull chunk live s
  | save => exact blind_save s
  | restore => exact blind_restore s
  | reset => exact blind_reset s

/-- What is dropped or passed on is so with any gamepad. -/
theorem blindAt_dispatch {e : Event} (h : s.heedsPad e = false) : s.BlindAt (dispatch e) := by
  have hattempt : s.BlindAt (Act.attempt (perform e) : Act Error Session (Except Error Unit)) := by
    intro bound
    simp only [Act.attempt, blindAt_perform h bound]
  refine hattempt.bind fun r => ?_
  cases r with
  | ok _ => exact Blind.pure _ _
  | error err =>
    by_cases hf : err.isFatal = true
    · simp only [hf, if_true, Act.fail_bind]
      exact Blind.fail err _
    · simp only [hf]
      exact (Blind.note _ _).bind fun _ => Blind.pure _ _

/-- The event of a gamepad reads and changes the binding, and nothing else. -/
theorem dispatch_of_binds {g : Event} (h : g.binds = true) (s : Session) :
    dispatch g s = ⟨.ok .default, s.rebound (g.boundAfter s.input.boundPad),
      (g.bindingNotices s.input.boundPad).map .note⟩ := by
  cases g with
  | padConnected index standard =>
    refine dispatch_of_ok (e := .padConnected index standard) ?_
    cases standard <;> exact congrArg (Outcome.mk _ _) (List.append_nil _)
  | padDisconnected index =>
    refine dispatch_of_ok (e := .padDisconnected index) ?_
    by_cases hb : s.input.boundPad = some index <;>
      simp only [perform, disconnect, Arbiter.disconnect, Event.boundAfter, Event.bindingNotices,
        rebound, hb, if_true, if_false] <;> rfl
  | _ => cases h

/-- Whether none of the events has to do with the binding, each at its turn. -/
def unheeding : List Event → Session → Bool
  | [], _ => true
  | e :: rest, s => !s.heedsPad e && unheeding rest (dispatch e s).state

/-- By induction on the events: each of them leaves the binding to the next one. -/
theorem blindAt_drain {events : List Event} (h : unheeding events s = true) :
    s.BlindAt (drain events) := by
  induction events generalizing s with
  | nil => exact Blind.pure () s
  | cons e rest ih =>
    obtain ⟨he, hrest⟩ := Bool.and_eq_true_iff.mp h
    have hfirst := blindAt_dispatch (Bool.not_eq_true' _ ▸ he)
    exact hfirst.bind fun _ => ih hrest

/-- Whether the event of a gamepad comes before the action or after it makes no difference to either
of them. -/
structure Commute (s : Session) (g : Event) (x : Act Error Session α) : Prop where
  outcome : (x (dispatch g s).state).result = (x s).result
  said : (x (dispatch g s).state).trace = (x s).trace
  bindingOutcome : (dispatch g (x s).state).result = (dispatch g s).result
  bindingSaid : (dispatch g (x s).state).trace = (dispatch g s).trace
  state : (x (dispatch g s).state).state = (dispatch g (x s).state).state
  calls : calls ((dispatch g s).trace ++ (x (dispatch g s).state).trace) =
    calls ((x s).trace ++ (dispatch g (x s).state).trace)

theorem BlindAt.commute {x : Act Error Session α} (h : s.BlindAt x) {g : Event}
    (hg : g.binds = true) : s.Commute g x := by
  have hfirst := dispatch_of_binds hg s
  have hlast := dispatch_of_binds hg (x s).state
  rw [h.boundPad] at hlast
  have hsecond : x (dispatch g s).state = ⟨(x s).result,
      (x s).state.rebound (g.boundAfter s.input.boundPad), (x s).trace⟩ := by
    rw [hfirst]
    exact h _
  have hsilent : GuestHost.calls ((g.bindingNotices s.input.boundPad).map .note) = [] := by
    refine calls_of_fromHost fun o ho => ?_
    obtain ⟨n, -, rfl⟩ := List.mem_map.mp ho
    rfl
  constructor
  case outcome => rw [hsecond]
  case said => rw [hsecond]
  case bindingOutcome => rw [hlast, hfirst]
  case bindingSaid => rw [hlast, hfirst]
  case state => rw [hsecond, hlast]
  case calls =>
    rw [hsecond, hlast, hfirst, calls_append, calls_append, hsilent, List.append_nil,
      List.nil_append]

/-- The gamepad may come before a whole queue of such events or behind it. -/
theorem drain_commutes {g : Event} (hg : g.binds = true) {events : List Event}
    (h : unheeding events s = true) : s.Commute g (drain events) :=
  (blindAt_drain h).commute hg

theorem binding_commutes {g e : Event} (hg : g.binds = true) (he : s.heedsPad e = false) :
    s.Commute g (dispatch e) :=
  (blindAt_dispatch he).commute hg

/-- A reset that fails, and a gamepad that comes before it. -/
theorem binding_commutes_homeless :
    homeless.Commute (.padConnected 3 true) (dispatch .reset) ∧
      (dispatch .reset homeless).result = .error (.outOfRange 0 16 0) ∧
      (dispatch .reset (dispatch (.padConnected 3 true) homeless).state).state.input.boundPad =
        some 3 := by
  have h : homeless.Commute (.padConnected 3 true) (dispatch .reset) := binding_commutes rfl rfl
  refine ⟨h, by rfl, ?_⟩
  rw [h.state, dispatch_of_binds rfl]
  rfl

end Session

end GuestHost
