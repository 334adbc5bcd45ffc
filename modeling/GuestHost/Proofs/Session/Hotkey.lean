import GuestHost.Proofs.Session.Heard

/-! Hotkeys. A key that is bound goes down as a gesture and the event of its action, and comes up as
nothing at all; whole sequences of events go the same way with such keys replaced. No bound key ever
adds to the mask. -/
namespace GuestHost

/-- The first binding of a code decides. -/
inductive Config.Hotkeys.Binds (h : Config.Hotkeys) (code : UInt32) : Hotkey → Prop where
  | save : h.save = some code → Binds h code .save
  | restore : h.save ≠ some code → h.restore = some code → Binds h code .restore
  | reset : h.save ≠ some code → h.restore ≠ some code → h.reset = some code → Binds h code .reset

theorem Config.Hotkeys.find?_eq_some_iff {h : Config.Hotkeys} {code : UInt32} {k : Hotkey} :
    h.find? code = some k ↔ h.Binds code k := by
  constructor
  · intro hk
    unfold find? at hk
    split_ifs at hk with hsave hrestore hreset <;> cases hk
    · exact .save hsave
    · exact .restore hsave hrestore
    · exact .reset hsave hrestore hreset
  · rintro (hsave | ⟨hsave, hrestore⟩ | ⟨hsave, hrestore, hreset⟩) <;> simp [find?, *]

/-- The host's note that a hotkey went down. -/
def Output.namesHotkey : Output → Bool
  | .note (.hotkey _) => true
  | _ => false

namespace Session

/-- The same state, the same error or none, and the same trace but for notes on hotkeys. -/
structure Alike {α β : Type} (o : Outcome Error Session α) (o' : Outcome Error Session β) :
    Prop where
  result : o.result.map (fun _ => ()) = o'.result.map fun _ => ()
  state : o.state = o'.state
  trace : o.trace.filter (!·.namesHotkey) = o'.trace.filter (!·.namesHotkey)

/-- What can stand for an event. -/
inductive Step where
  | gesture
  | event (e : Event)

def Step.act : Step → Act Error Session Unit
  | .gesture => Session.gesture
  | .event e => do
    let _ ← dispatch e

/-- Step after step, up to the first error. -/
def inTurn : List Step → Act Error Session Unit
  | [] => pure ()
  | x :: rest => do
    x.act
    inTurn rest

/-- Step after step, whether or not they succeed. -/
def regardless : List Step → Act Error Session Unit
  | [] => pure ()
  | x :: rest => do
    let _ : Except Error Unit ← Act.attempt x.act
    regardless rest

end Session

/-- A bound key that goes down stands for a gesture and an event, and one that comes up for nothing. -/
def Event.steps (hotkeys : Config.Hotkeys) : Event → List Session.Step
  | .key e => match hotkeys.find? e.code, e.state with
    | none, _ => [.event (.key e)]
    | some k, .down => [.gesture, .event k.event]
    | some _, .up => []
  | e => [.event e]

namespace Session

variable {s s' : Session} {e : KeyEvent} {k : Hotkey} {t t' : List Output}

theorem keyboard_of_bound_down (hk : s.config.hotkeys.Binds e.code k) (hd : e.state = .down) :
    keyboard e s = ⟨(perform k.event s.woken).result, (perform k.event s.woken).state,
      (s.wakeNotes ++ [.note (.hotkey k)]) ++ (perform k.event s.woken).trace⟩ := by
  have hfound := Config.Hotkeys.find?_eq_some_iff.mpr hk
  rw [keyboard_of_down hd, Act.bind_of_ok (gesture_eq s), hfound]
  simp only [obey_eq, Act.note_bind, List.append_assoc, List.singleton_append]

theorem keyboard_of_bound_up (hk : s.config.hotkeys.Binds e.code k) (hd : e.state = .up) :
    keyboard e s = ⟨.ok (), s, []⟩ := by
  rw [keyboard_of_up hd, Config.Hotkeys.find?_eq_some_iff.mpr hk]
  rfl

/-- Events that come to the same come to the same when they are dispatched. -/
theorem dispatch_of_perform {e e' : Event}
    (h : perform e s = ⟨(perform e' s').result, (perform e' s').state, t ++ (perform e' s').trace⟩) :
    dispatch e s = ⟨(dispatch e' s').result.map fun _ => e.disposition, (dispatch e' s').state,
      t ++ (dispatch e' s').trace⟩ := by
  rcases hp : perform e' s' with ⟨err | _, s'', t'⟩ <;> rw [hp] at h
  · cases hf : err.isFatal with
    | true =>
      rw [dispatch_of_fatal h hf, dispatch_of_fatal hp hf]
      rfl
    | false =>
      rw [dispatch_of_dropped h hf, dispatch_of_dropped hp hf, ← List.append_assoc]
      rfl
  · rw [dispatch_of_ok h, dispatch_of_ok hp]
    rfl

theorem dispatch_of_bound_down (hk : s.config.hotkeys.Binds e.code k) (hd : e.state = .down) :
    dispatch (.key e) s = ⟨(dispatch k.event s.woken).result.map fun _ => .preventDefault,
      (dispatch k.event s.woken).state,
      (s.wakeNotes ++ [.note (.hotkey k)]) ++ (dispatch k.event s.woken).trace⟩ :=
  dispatch_of_perform (keyboard_of_bound_down hk hd)

theorem dispatch_of_bound_up (hk : s.config.hotkeys.Binds e.code k) (hd : e.state = .up) :
    dispatch (.key e) s = ⟨.ok .preventDefault, s, []⟩ :=
  dispatch_of_ok (keyboard_of_bound_up hk hd)

namespace Alike

variable {α β : Type} {o : Outcome Error Session α} {o' : Outcome Error Session β}

theorem refl (o : Outcome Error Session α) : Alike o o :=
  ⟨rfl, rfl, rfl⟩

/-- After traces that differ at most in notes on hotkeys. -/
theorem after (ht : t.filter (!·.namesHotkey) = t'.filter (!·.namesHotkey)) (h : Alike o o') :
    Alike (⟨o.result, o.state, t ++ o.trace⟩ : Outcome Error Session α)
      (⟨o'.result, o'.state, t' ++ o'.trace⟩ : Outcome Error Session β) where
  result := h.result
  state := h.state
  trace := by rw [List.filter_append, List.filter_append, ht, h.trace]

end Alike

theorem filter_append_hotkey (t : List Output) (k : Hotkey) :
    (t ++ [Output.note (.hotkey k)]).filter (!·.namesHotkey) = t.filter (!·.namesHotkey) := by
  simp [Output.namesHotkey]

theorem inTurn_gesture (rest : List Step) (s : Session) : inTurn (.gesture :: rest) s =
    ⟨(inTurn rest s.woken).result, (inTurn rest s.woken).state,
      s.wakeNotes ++ (inTurn rest s.woken).trace⟩ :=
  Act.bind_of_ok (gesture_eq s)

theorem inTurn_of_ok {e : Event} {d : Disposition} (h : dispatch e s = ⟨.ok d, s', t⟩)
    (rest : List Step) : inTurn (.event e :: rest) s =
      ⟨(inTurn rest s').result, (inTurn rest s').state, t ++ (inTurn rest s').trace⟩ := by
  have hact : (Step.event e).act s = ⟨.ok (), s', t⟩ := by
    rw [Step.act, Act.bind_pure_apply, h]
    rfl
  rw [inTurn, Act.bind_of_ok hact]

theorem inTurn_of_error {e : Event} {err : Error} (h : dispatch e s = ⟨.error err, s', t⟩)
    (rest : List Step) : inTurn (.event e :: rest) s = ⟨.error err, s', t⟩ := by
  have hact : (Step.event e).act s = ⟨.error err, s', t⟩ := by
    rw [Step.act, Act.bind_of_error h]
  rw [inTurn, Act.bind_of_error hact]

theorem regardless_cons (x : Step) (rest : List Step) (s : Session) : regardless (x :: rest) s =
    ⟨(regardless rest (x.act s).state).result, (regardless rest (x.act s).state).state,
      (x.act s).trace ++ (regardless rest (x.act s).state).trace⟩ := rfl

theorem config_dispatch (e : Event) (s : Session) : (dispatch e s).state.config = s.config := by
  have h := (sameSetup_act (.dispatch e) s).config
  rwa [act_dispatch] at h

end Session

/-- What becomes of an event: only a bound key is replaced. -/
theorem Event.steps_cases (hotkeys : Config.Hotkeys) (e : Event) :
    e.steps hotkeys = [.event e] ∨ ∃ e' k, e = .key e' ∧ hotkeys.Binds e'.code k ∧
      (e'.state = .down ∧ e.steps hotkeys = [.gesture, .event k.event] ∨
        e'.state = .up ∧ e.steps hotkeys = []) := by
  cases e with
  | key e =>
    cases hk : hotkeys.find? e.code with
    | none => exact .inl (by simp only [steps, hk])
    | some k =>
      refine .inr ⟨e, k, rfl, Config.Hotkeys.find?_eq_some_iff.mp hk, ?_⟩
      cases hd : e.state with
      | down => exact .inl ⟨rfl, by simp only [steps, hk, hd]⟩
      | up => exact .inr ⟨rfl, by simp only [steps, hk, hd]⟩
  | _ => exact .inl rfl

namespace Session

variable {s : Session}

/-- The loop until its first error. By induction on the events, none of which touches the settings. -/
theorem alike_drain (events : List Event) (s : Session) :
    Alike (drain events s) (inTurn (events.flatMap (·.steps s.config.hotkeys)) s) := by
  induction events generalizing s with
  | nil => exact .refl _
  | cons e rest ih =>
    have hconfig := config_dispatch e s
    rw [List.flatMap_cons]
    rcases e.steps_cases s.config.hotkeys with hsteps | ⟨e, k, rfl, hk, ⟨hd, hsteps⟩ | ⟨hd, hsteps⟩⟩
    · rw [hsteps, List.singleton_append]
      rcases hdisp : dispatch e s with ⟨err | d, s', t⟩ <;> rw [hdisp] at hconfig
      · rw [drain, Act.bind_of_error hdisp, inTurn_of_error hdisp]
        exact .refl _
      · rw [drain, Act.bind_of_ok hdisp, inTurn_of_ok hdisp, ← hconfig]
        exact .after rfl (ih s')
    · rw [hsteps, List.cons_append, List.singleton_append, inTurn_gesture]
      have hkey := dispatch_of_bound_down hk hd
      rw [hkey] at hconfig
      rcases hdisp : dispatch k.event s.woken with ⟨err | d, s', t⟩ <;> rw [hdisp] at hkey hconfig
      · rw [drain, Act.bind_of_error hkey, inTurn_of_error hdisp]
        exact .after (filter_append_hotkey _ k) (.refl ⟨.error err, s', t⟩)
      · rw [drain, Act.bind_of_ok hkey, inTurn_of_ok hdisp, List.append_assoc, ← hconfig]
        exact .after (filter_append_hotkey _ k) (.after rfl (ih s'))
    · rw [hsteps, List.nil_append, drain, Act.bind_of_silent (dispatch_of_bound_up hk hd)]
      exact ih s

/-- The same without a stop: what comes after an error is done all the same. -/
theorem alike_performAll (events : List Event) (s : Session) :
    Alike (performAll (events.map .dispatch) s)
      (regardless (events.flatMap (·.steps s.config.hotkeys)) s) := by
  induction events generalizing s with
  | nil => exact .refl _
  | cons e rest ih =>
    have hconfig := config_dispatch e s
    have hrest := ih (dispatch e s).state
    rw [List.map_cons, List.flatMap_cons, performAll_cons, act_dispatch]
    rw [hconfig] at hrest
    rcases e.steps_cases s.config.hotkeys with hsteps | ⟨e, k, rfl, hk, ⟨hd, hsteps⟩ | ⟨hd, hsteps⟩⟩
    · rw [hsteps, List.singleton_append, regardless_cons, Step.act, Act.bind_pure_apply]
      exact .after rfl hrest
    · rw [hsteps, List.cons_append, List.singleton_append, regardless_cons, regardless_cons]
      rw [dispatch_of_bound_down hk hd] at hrest ⊢
      rw [Step.act, gesture_eq, Step.act, Act.bind_pure_apply]
      dsimp only at hrest ⊢
      rw [List.append_assoc]
      exact .after (filter_append_hotkey _ k) (.after rfl hrest)
    · rw [dispatch_of_bound_up hk hd] at hrest ⊢
      rw [hsteps, List.nil_append]
      exact hrest

/-- Of the keys among the events the input has heard only those that are not bound, and no other has
set the bit of its modifier. -/
structure SparesBound (s : Session) (events : List Event) (s' : Session) : Prop where
  heard : ∃ steps : List InputStep, s'.input = steps.foldl (fun a x => x.act a) s.input ∧
    ∀ e, .key e ∈ steps → .key e ∈ events ∧ s.config.hotkeys.find? e.code = none
  bit : ∀ {code} {k : Modifier}, s.config.hotkeys.find? code ≠ none →
    KeyEvent.modifier? code = some k → k.In s'.input.keyMask → k.In s.input.keyMask

theorem sparesBound_of_hearsOnly {events : List Event} {s' : Session} {t : List Output}
    (h : HearsOnly (fun e => .key e ∈ events ∧ s.config.hotkeys.find? e.code = none) s t s') :
    SparesBound s events s' where
  heard := h.input
  bit hbound hk hin := by
    obtain ⟨steps, hinput, hkeys⟩ := h.input
    rw [hinput] at hin
    refine Arbiter.in_keyMask_of_foldl hk (fun e he hcode => hbound ?_) hin
    rw [← hcode]
    exact (hkeys e he).2

/-- A gesture, then the note that the hotkey went down, then what it stands for. -/
def heeding {α : Type} (k : Hotkey) (x : Act Error Session α) : Act Error Session α := do
  gesture
  Act.note (.hotkey k)
  x

theorem heeding_eq {α : Type} (k : Hotkey) (x : Act Error Session α) (s : Session) :
    heeding k x s = ⟨(x s.woken).result, (x s.woken).state,
      (s.wakeNotes ++ [.note (.hotkey k)]) ++ (x s.woken).trace⟩ := by
  rw [heeding, Act.bind_of_ok (gesture_eq s), Act.note_bind, List.append_assoc]
  rfl

/-- A hotkey is a gesture and an event of the lifecycle when it goes down, and nothing when it comes
up. So are all hotkeys among the events of a run, of which the mask shows nothing. -/
theorem hotkey_eq_lifecycle (s : Session) :
    (∀ e k, s.config.hotkeys.Binds e.code k → e.state = .down →
      keyboard e s = heeding k (perform k.event) s ∧
        dispatch (.key e) s = (heeding k (dispatch k.event) >>= fun _ => pure .preventDefault) s) ∧
      (∀ e k, s.config.hotkeys.Binds e.code k → e.state = .up →
        keyboard e s = ⟨.ok (), s, []⟩ ∧ dispatch (.key e) s = ⟨.ok .preventDefault, s, []⟩) ∧
      ∀ events,
        (Alike (drain events s) (inTurn (events.flatMap (·.steps s.config.hotkeys)) s) ∧
          SparesBound s events (drain events s).state) ∧
        Alike (performAll (events.map .dispatch) s)
            (regardless (events.flatMap (·.steps s.config.hotkeys)) s) ∧
          SparesBound s events (performAll (events.map .dispatch) s).state := by
  refine ⟨fun e k hk hd => ⟨?_, ?_⟩, fun e k hk hd => ⟨?_, ?_⟩, fun events => ⟨⟨?_, ?_⟩, ?_, ?_⟩⟩
  · rw [keyboard_of_bound_down hk hd, heeding_eq]
  · rw [dispatch_of_bound_down hk hd, Act.bind_pure_apply, heeding_eq]
  · exact keyboard_of_bound_up hk hd
  · exact dispatch_of_bound_up hk hd
  · exact alike_drain events s
  · exact sparesBound_of_hearsOnly (hearsOnly_drain fun e he hfree => ⟨he, hfree⟩)
  · exact alike_performAll events s
  · exact sparesBound_of_hearsOnly (hearsOnly_performAll fun e he hfree => ⟨he, hfree⟩)

/-- Shift is bound twice; saving comes before resetting, and fails. -/
theorem hotkey_eq_lifecycle_clashing :
    (dispatch (.key ⟨.down, 16, "Shift"⟩) clashing).result = .ok .preventDefault ∧
      (drain [.key ⟨.down, 16, "Shift"⟩, .key ⟨.up, 16, "Shift"⟩] clashing).state =
        (inTurn [.gesture, .event .save] clashing).state ∧
      ¬Modifier.shift.In
        (drain [.key ⟨.down, 16, "Shift"⟩, .key ⟨.up, 16, "Shift"⟩] clashing).state.input.keyMask := by
  obtain ⟨hdown, -, hruns⟩ := hotkey_eq_lifecycle clashing
  obtain ⟨⟨halike, hspares⟩, -⟩ := hruns [.key ⟨.down, 16, "Shift"⟩, .key ⟨.up, 16, "Shift"⟩]
  refine ⟨?_, halike.state, fun hin => ?_⟩
  · rw [(hdown ⟨.down, 16, "Shift"⟩ .save (.save rfl) rfl).2]
    rfl
  · have hbound : clashing.config.hotkeys.find? 16 ≠ none := by decide
    have hheld := hspares.bit hbound (by decide) hin
    exact Modifier.not_in_zero .shift hheld

end Session

end GuestHost
