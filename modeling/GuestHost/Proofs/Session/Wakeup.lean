import GuestHost.Proofs.Audio.Wakeup
import GuestHost.Proofs.Session.Lifecycle
import GuestHost.Proofs.Session.Loop
import GuestHost.Proofs.Session.Parts

/-! The gestures that wake the audio device. Pointers and keys that go down are gestures whatever
becomes of them, and nothing else reaches the device. -/
namespace GuestHost

def Event.wakes : Event → Bool
  | .pointer e _ => e.kind = .down
  | .key e => e.state = .down
  | _ => false

def Operation.wakes (op : Operation) : Bool :=
  op.event?.any Event.wakes

namespace Session

variable {s : Session} {device : Option AudioDevice} {n : Nat}

/-- The audio device is left alone. -/
def SameAudio (s : Session) (_ : List Output) (s' : Session) : Prop :=
  s'.audio = s.audio

theorem sameAudio_law : Act.Law SameAudio where
  refl _ := rfl
  trans h h' := h'.trans h

theorem sameAudio_onVm {α : Type} (x : Act Error Vm α) : Act.Keeps SameAudio (onVm x) :=
  fun _ => rfl

/-- What comes after the guard. -/
theorem sameAudio_guarded {x : Act Error Session Unit} (hx : Act.Keeps SameAudio x) :
    Act.Keeps SameAudio (requireRunning >>= fun _ => x) :=
  .bind sameAudio_law (fun _ => rfl) fun _ => hx

theorem sameAudio_boot : Act.Keeps SameAudio boot := by
  intro s
  obtain ⟨⟨vm, hb⟩, -⟩ := deals_bringUp { s with lifecycle := .booting }
  rcases hr : bringUp { s with lifecycle := .booting } with ⟨e | _, s', t⟩ <;> rw [hr] at hb <;>
    cases hb
  · rw [boot_of_error hr]
    rfl
  · rw [boot_of_ok hr]
    rfl

theorem sameAudio_reset : Act.Keeps SameAudio reset :=
  .bind sameAudio_law (fun _ => rfl) fun _ => sameAudio_boot

theorem sameAudio_update (pads : Gamepads) : Act.Keeps SameAudio (update pads) :=
  keeps_update sameAudio_law (fun _ _ => rfl) (fun _ => sameAudio_onVm _) (sameAudio_onVm _) pads

theorem sameAudio_forwardKey (e : KeyEvent) : Act.Keeps SameAudio (forwardKey e) :=
  keeps_forwardKey sameAudio_law (fun _ _ => rfl) (fun _ => sameAudio_onVm _) e

theorem sameAudio_save : Act.Keeps SameAudio save :=
  sameAudio_guarded <| .bind sameAudio_law (sameAudio_onVm _) fun _ =>
    .bind sameAudio_law (fun _ => rfl) fun _ _ => rfl

theorem sameAudio_restore : Act.Keeps SameAudio restore := by
  refine sameAudio_guarded (.bind sameAudio_law (.get sameAudio_law) fun s => ?_)
  cases s.snapshot with
  | none => exact fun _ => rfl
  | some snapshot => exact .bind sameAudio_law (sameAudio_onVm _) fun _ _ => rfl

theorem sameAudio_obey (k : Hotkey) : Act.Keeps SameAudio (obey k) := by
  refine .bind sameAudio_law (fun _ => rfl) fun _ => ?_
  cases k with
  | save => exact sameAudio_save
  | restore => exact sameAudio_restore
  | reset => exact sameAudio_reset

/-- What becomes of a pointer behind the gesture. -/
theorem sameAudio_point (e : PointerEvent) (b : Bounds) :
    Act.Keeps SameAudio (requireRunning >>= fun _ => Act.get >>= fun s =>
      onVm (Vm.pointer (s.input.pointer e b))) :=
  sameAudio_guarded (.bind sameAudio_law (.get sameAudio_law) fun _ => sameAudio_onVm _)

theorem sameAudio_answerPull (chunk : Chunk) (live : Bool) :
    Act.Keeps SameAudio (answerPull chunk live) := by
  intro s
  change (pullChunk (s, chunk)).state.1.audio = s.audio
  by_cases hs : s.lifecycle = .running
  · rw [pullChunk_of_running hs]
    rfl
  · rw [pullChunk_of_not_running hs]

/-- A gesture is one whatever comes after it. -/
theorem audio_gesture_bind {x : Act Error Session Unit} (hx : Act.Keeps SameAudio x) (s : Session) :
    ((gesture >>= fun _ => x) s).state.audio = s.audio.gesture.1 := by
  rw [Act.bind_of_ok (gesture_eq s)]
  exact hx s.woken

/-- One case for each kind of event, in any state of the session. -/
theorem audio_perform (e : Event) (s : Session) :
    (perform e s).state.audio = if e.wakes then s.audio.gesture.1 else s.audio := by
  cases e with
  | pointer e b =>
    by_cases hd : e.kind = .down
    · have hwakes : (Event.pointer e b).wakes = true := decide_eq_true hd
      rw [if_pos hwakes, perform, pointer_of_down hd]
      exact audio_gesture_bind (sameAudio_point e b) s
    · have hwakes : ¬(Event.pointer e b).wakes = true := fun h => hd (of_decide_eq_true h)
      rw [if_neg hwakes, perform, pointer_of_not_down hd]
      exact sameAudio_point e b s
  | key e =>
    cases hd : e.state with
    | down =>
      have hwakes : (Event.key e).wakes = true := decide_eq_true hd
      rw [if_pos hwakes, perform, keyboard_of_down hd]
      refine audio_gesture_bind ?_ s
      cases s.config.hotkeys.find? e.code with
      | some k => exact sameAudio_obey k
      | none => exact sameAudio_forwardKey e
    | up =>
      have hwakes : ¬(Event.key e).wakes = true := by simp [Event.wakes, hd]
      rw [if_neg hwakes, perform, keyboard_of_up hd]
      cases s.config.hotkeys.find? e.code with
      | some k => rfl
      | none => exact sameAudio_forwardKey e s
  | frame pads => exact sameAudio_update pads s
  | wheel delta => exact sameAudio_guarded (sameAudio_onVm _) s
  | contextMenu => rfl
  | padConnected index standard => rfl
  | padDisconnected index => rfl
  | audioPull chunk live => exact sameAudio_answerPull chunk live s
  | save => exact sameAudio_save s
  | restore => exact sameAudio_restore s
  | reset => exact sameAudio_reset s

theorem audio_act (op : Operation) (s : Session) :
    (op.act s).state.audio = if op.wakes then s.audio.gesture.1 else s.audio := by
  rcases op.event_or_poke with ⟨e, he⟩ | ⟨addr, bytes, rfl⟩
  · rw [(act_of_event he s).1, Operation.wakes, he]
    exact audio_perform e s
  · rfl

/-- The events that the loop gets to. Only the last of them may end it. -/
def reached : Session → List Event → List Event
  | _, [] => []
  | s, e :: rest => match dispatch e s with
    | ⟨.ok _, s', _⟩ => e :: s'.reached rest
    | ⟨.error _, _, _⟩ => [e]

theorem after_perform (h : s.audio.After device n) (e : Event) :
    (perform e s).state.audio.After device (n + if e.wakes then 1 else 0) := by
  rw [audio_perform]
  exact h.gestureIf e.wakes

theorem after_act (h : s.audio.After device n) (op : Operation) :
    (op.act s).state.audio.After device (n + if op.wakes then 1 else 0) := by
  rw [audio_act]
  exact h.gestureIf op.wakes

/-- By induction on the operations. -/
theorem after_performAll (h : s.audio.After device n) (ops : List Operation) :
    (performAll ops s).state.audio.After device (n + ops.countP Operation.wakes) := by
  induction ops generalizing s n with
  | nil => exact h
  | cons op rest ih =>
    have hrest := ih (after_act h op)
    rw [performAll_cons, List.countP_cons, ← Nat.add_assoc, Nat.add_right_comm]
    exact hrest

theorem after_drain (h : s.audio.After device n) (events : List Event) :
    (drain events s).state.audio.After device
      (n + (s.reached events).countP Event.wakes) := by
  induction events generalizing s n with
  | nil => exact h
  | cons e rest ih =>
    have he := after_perform h e
    rw [← (dispatch_same e s).1] at he
    rcases hd : dispatch e s with ⟨err | d, s', t⟩ <;> rw [hd] at he
    · rw [drain, Act.bind_of_error hd, reached, hd]
      simpa using he
    · have hrest := ih he
      rw [drain, Act.bind_of_ok hd, reached, hd, List.countP_cons, ← Nat.add_assoc,
        Nat.add_right_comm]
      exact hrest

theorem state_run (events : List Event) (s : Session) :
    (run events s).state = (drain events s).state := by
  rcases hd : drain events s with ⟨e | _, s', t⟩
  · rw [run_of_drain_error hd]
  · rw [run_of_drain hd]

/-- A new session has not tried its device yet. -/
theorem audio_of_create {σ : Type} {read : Container.Assembler} {engine : Guest.Engine}
    {config : Config} {code rom : ByteArray} {surroundings : Surroundings} {st : σ}
    (h : (create read engine config code rom surroundings st).result = .ok s) :
    s.audio = .ofDevice surroundings.device := by
  obtain ⟨-, -, guest, vm, t, -, -, -, rfl⟩ := create_ok (Act.eq_of_result h)
  rfl

/-- The device is tried once for each gesture up to the first attempt that it does not refuse, and
never again, whatever state the session is in and whatever else becomes of the gestures. -/
theorem tried_until_resumed (h : s.audio = .ofDevice device) (ops : List Operation)
    (events : List Event) :
    let s' := (performAll ops s).state
    let gestures := ops.countP Operation.wakes
    s'.audio.After device gestures ∧
      (run events s').state.audio.After device
        (gestures + (s'.reached events).countP Event.wakes) ∧
      ∀ op : Operation, (op.act s').state.audio.attempts =
        s'.audio.attempts + if op.wakes ∧ s'.audio.pending then 1 else 0 := by
  intro s' gestures
  have hnew : s.audio.After device 0 := h ▸ Wakeup.after_ofDevice device
  have hops : s'.audio.After device gestures := by
    simpa only [Nat.zero_add] using after_performAll hnew ops
  refine ⟨hops, ?_, fun op => ?_⟩
  · rw [state_run]
    exact after_drain hops events
  · rw [audio_act]
    cases op.wakes with
    | true => simpa using hops.attempts_gesture
    | false => rfl

/-- Wakes at the third attempt. -/
def reluctant : AudioDevice where
  refusal attempt := if attempt < 2 then some ["not allowed"] else none

/-- A session that never boots wakes its device all the same, at the third of four gestures. -/
theorem tried_until_resumed_reluctant :
    let create : Outcome Error Unit Session := create (fun _ => none) Guest.Module.quiet.engine {}
      Container.emptyModule ⟨#[0xa0]⟩ ⟨quiet.vm.machine.clock, some reluctant⟩ ()
    let down : KeyEvent := ⟨.down, 65, "a"⟩
    let point : PointerEvent := ⟨.down, ⟨0⟩, ⟨0⟩, 1⟩
    let bounds : Bounds := ⟨⟨0⟩, ⟨0⟩, ⟨0⟩, ⟨0⟩⟩
    let ops : List Operation := [.key down, .wheel ⟨0⟩, .dispatch (.pointer point bounds),
      .key { down with state := .up }, .key down, .dispatch (.key down)]
    ∃ s, create.result = .ok s ∧ (performAll ops s).state.audio.attempts = 3 ∧
      (performAll ops s).state.audio.pending = false := by
  intro create down point bounds ops
  let s : Session := { quiet with audio := .ofDevice (some reluctant) }
  have hcreate : create.result = .ok s := rfl
  refine ⟨s, hcreate, ?_⟩
  have hnew : s.audio = .ofDevice (some reluctant) := audio_of_create hcreate
  obtain ⟨⟨-, hattempts, hpending⟩, -⟩ := tried_until_resumed hnew ops []
  have hmade : ∀ i, i < (performAll ops s).state.audio.attempts ↔
    i < 4 ∧ Wakeup.Due (some reluctant) i := hattempts
  have hdue : Wakeup.Due (some reluctant) 2 := ⟨_, rfl, by decide⟩
  have hover : ¬Wakeup.Due (some reluctant) 3 := by
    rintro ⟨_, ⟨⟩, hrefused⟩
    exact hrefused 2 (by decide) rfl
  have hthird := (hmade 2).mpr ⟨by decide, hdue⟩
  have hfourth : ¬3 < _ := fun h => hover ((hmade 3).mp h).2
  have hcount := Nat.le_antisymm (Nat.not_lt.mp hfourth) hthird
  refine ⟨hcount, Bool.eq_false_iff.mpr fun hp => hover ?_⟩
  rw [← hcount]
  exact hpending.mp hp

end Session

end GuestHost
