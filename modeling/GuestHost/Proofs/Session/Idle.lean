import GuestHost.Proofs.Audio.Chunk
import GuestHost.Proofs.Protocol
import GuestHost.Proofs.Session.Guards

/-! Sessions that do not run. Short of a boot no event reaches the guest, and none is fatal; pulls
are answered with silence. -/
namespace GuestHost

/-- What an event brings back from a session that does not run. -/
def Event.silentReply (frames : Nat) : Event → List Chunk
  | .audioPull _ true => [.silent frames]
  | _ => []

namespace Session

/-- Nothing came from the guest or went to it, and of the session at most the binding of the gamepad
and the wakeup of the audio device have changed. -/
structure Inert (s : Session) (t : List Output) (s' : Session) : Prop where
  rest : ∃ audio boundPad, s' = { s with audio, input := { s.input with boundPad } }
  shown : ∀ o ∈ t, o.fromHost = true

/-- The action leaves the session inert, ends like this and sends back these chunks. -/
structure Passes (s : Session) (x : Act Error Session Unit) (r : Except Error Unit)
    (cs : List Chunk) : Prop where
  inert : Inert s (x s).trace (x s).state
  result : (x s).result = r
  sent : replies (x s).trace = cs

variable {s s' : Session} {t : List Output} {r : Except Error Unit} {cs : List Chunk}
  {x y : Act Error Session Unit}

theorem inert_law : Act.Law Inert where
  refl s := ⟨⟨s.audio, s.input.boundPad, rfl⟩, nofun⟩
  trans h h' := by
    obtain ⟨audio, boundPad, rfl⟩ := h.rest
    obtain ⟨audio', boundPad', rfl⟩ := h'.rest
    refine ⟨⟨audio', boundPad', rfl⟩, fun o ho => ?_⟩
    exact (List.mem_append.mp ho).elim (h.shown o) (h'.shown o)

/-- Notes are no more than what the host says to itself. -/
theorem inert_of_notes (ht : ∀ o ∈ t, ∃ n, o = .note n)
    (hrest : ∃ audio boundPad, s' = { s with audio, input := { s.input with boundPad } }) :
    Inert s t s' where
  rest := hrest
  shown o ho := by
    obtain ⟨n, rfl⟩ := ht o ho
    rfl

theorem inert_note (s : Session) (n : Notice) : Inert s [.note n] s :=
  inert_of_notes (by simp) (inert_law.refl s).rest

namespace Inert

variable (h : Inert s t s')
include h

theorem lifecycle : s'.lifecycle = s.lifecycle := by
  obtain ⟨audio, boundPad, rfl⟩ := h.rest
  rfl

theorem config : s'.config = s.config := by
  obtain ⟨audio, boundPad, rfl⟩ := h.rest
  rfl

end Inert

theorem notes_of_wakeNotes (s : Session) : ∀ o ∈ s.wakeNotes, ∃ n, o = .note n := by
  intro o ho
  obtain ⟨a, rfl⟩ := exists_note_of_mem_wakeNotes ho
  exact ⟨_, rfl⟩

namespace Passes

theorem of_eq (h : x s = ⟨r, s', t⟩) (hinert : Inert s t s') :
    Passes s x r (replies t) := by
  constructor <;> rw [h]
  exact hinert

theorem of_same (h : x s = ⟨r, s, []⟩) : Passes s x r [] :=
  .of_eq h (inert_law.refl s)

theorem congr (h : y s = x s) (hx : Passes s x r cs) : Passes s y r cs := by
  constructor <;> rw [h]
  · exact hx.inert
  · exact hx.result
  · exact hx.sent

/-- Whatever has been done before, as long as it is only noted. -/
theorem after {α : Type} {z : Act Error Session α} {f : α → Act Error Session Unit} {a : α}
    (h : z s = ⟨.ok a, s', t⟩) (ht : ∀ o ∈ t, ∃ n, o = .note n)
    (hrest : ∃ audio boundPad, s' = { s with audio, input := { s.input with boundPad } })
    (hf : Passes s' (f a) r cs) : Passes s (z >>= f) r cs := by
  constructor <;> rw [Act.bind_of_ok h]
  · exact inert_law.trans (inert_of_notes ht hrest) hf.inert
  · exact hf.result
  · rw [replies_append, replies_of_notes ht, hf.sent, List.nil_append]

theorem afterGesture {f : Unit → Act Error Session Unit} (hf : Passes s.woken (f ()) r cs) :
    Passes s (gesture >>= f) r cs :=
  .after (gesture_eq s) (notes_of_wakeNotes s) ⟨s.audio.gesture.1, s.input.boundPad, rfl⟩ hf

end Passes

section NotRunning

variable (hs : s.lifecycle ≠ .running)
include hs

/-- An action that starts with the guard does nothing else. -/
theorem passes_guarded (f : Unit → Act Error Session Unit) :
    Passes s (requireRunning >>= f) (.error .notRunning) [] :=
  .of_same (Act.bind_of_error (requireRunning_of_not_running hs))

theorem passes_pointer (e : PointerEvent) (b : Bounds) :
    Passes s (pointer e b) (.error .notRunning) [] := by
  by_cases he : e.kind = .down
  · refine .congr (pointer_of_down he b s) (.afterGesture ?_)
    exact passes_guarded (s := s.woken) hs _
  · exact .congr (pointer_of_not_down he b s) (passes_guarded hs _)

theorem passes_obey {k : Hotkey} (hk : k.request.boots = false) :
    Passes s (obey k) k.request.whileIdle [] := by
  refine .after (a := ()) (t := [.note (.hotkey k)]) rfl (by simp) (inert_law.refl s).rest ?_
  cases k with
  | save => exact passes_guarded hs _
  | restore => exact passes_guarded hs _
  | reset => cases hk

theorem passes_keyboard {e : KeyEvent} (he : (e.request s.config.hotkeys).boots = false) :
    Passes s (keyboard e) (e.request s.config.hotkeys).whileIdle [] := by
  unfold KeyEvent.request at he ⊢
  cases hd : e.state with
  | up =>
    refine .congr (keyboard_of_up hd s) ?_
    cases s.config.hotkeys.find? e.code with
    | none => exact .of_same (forwardKey_of_not_running hs e)
    | some k => exact .of_same rfl
  | down =>
    refine .congr (keyboard_of_down hd s) (.afterGesture ?_)
    rw [hd] at he
    cases hk : s.config.hotkeys.find? e.code with
    | none => exact .of_same (forwardKey_of_not_running (s := s.woken) hs e)
    | some k =>
      rw [hk] at he
      exact passes_obey (s := s.woken) hs he

omit hs in
theorem passes_connect (index : UInt32) (standard : Bool) :
    Passes s (do let _ ← connect index standard) (.ok ()) [] := by
  refine .after (a := (s.input.connect index standard).2) rfl ?_ ?_ (.of_same rfl)
  · intro o ho
    obtain ⟨n, -, rfl⟩ := List.mem_map.mp ho
    exact ⟨n, rfl⟩
  · cases standard with
    | false => exact ⟨s.audio, s.input.boundPad, rfl⟩
    | true => exact ⟨s.audio, some index, rfl⟩

omit hs in
theorem passes_disconnect (index : UInt32) : Passes s (disconnect index) (.ok ()) [] := by
  by_cases hb : s.input.boundPad = some index
  · have hgone : disconnect index s = (⟨.ok (), { s with input := { s.input with boundPad := none } },
        [.note (.padUnbound index)]⟩ : Outcome Error _ _) := by
      simp only [disconnect, Arbiter.disconnect, hb, if_true]
    exact .of_eq hgone (inert_of_notes (by simp) ⟨s.audio, none, rfl⟩)
  · have hother : disconnect index s = (⟨.ok (), s, []⟩ : Outcome Error _ _) := by
      simp only [disconnect, Arbiter.disconnect, hb, if_false]
    exact .of_same hother

theorem passes_answerPull (chunk : Chunk) (live : Bool) : Passes s (answerPull chunk live) (.ok ())
    ((Event.audioPull chunk live).silentReply s.chunkFrames) := by
  have hpull := answerPull_of_ok live (pullChunk_of_not_running hs chunk)
  cases live with
  | false => exact .of_eq hpull (inert_note s .replyDropped)
  | true => exact .of_eq hpull ⟨(inert_law.refl s).rest, by simp [Output.fromHost]⟩

/-- One case for each kind of event. -/
theorem passes_perform {e : Event} (he : (e.request s.config.hotkeys).boots = false) :
    Passes s (perform e) (e.request s.config.hotkeys).whileIdle (e.silentReply s.chunkFrames) := by
  cases e with
  | frame pads => exact passes_guarded hs _
  | pointer e b => exact passes_pointer hs e b
  | wheel delta => exact passes_guarded hs _
  | key e => exact passes_keyboard hs he
  | contextMenu => exact .of_same rfl
  | padConnected index standard => exact passes_connect index standard
  | padDisconnected index => exact passes_disconnect index
  | audioPull chunk live => exact passes_answerPull hs chunk live
  | save => exact passes_guarded hs _
  | restore => exact passes_guarded hs _
  | reset => cases he

/-- Being turned down is not fatal. -/
theorem dispatch_of_not_running {e : Event} (he : (e.request s.config.hotkeys).boots = false) :
    (dispatch e s).result = .ok e.disposition ∧
      Inert s (dispatch e s).trace (dispatch e s).state ∧
      replies (dispatch e s).trace = e.silentReply s.chunkFrames := by
  obtain ⟨hinert, hresult, hreplies⟩ := passes_perform hs he
  obtain ⟨hstate, htrace⟩ := dispatch_same e s
  refine ⟨?_, ?_⟩
  · rw [result_dispatch, hresult]
    unfold Request.whileIdle
    split <;> rfl
  · rw [hstate]
    rcases htrace with ht | ⟨err, ht⟩ <;> rw [ht]
    · exact ⟨hinert, hreplies⟩
    · refine ⟨inert_law.trans hinert (inert_note _ _), ?_⟩
      rw [replies_append, hreplies]
      exact List.append_nil _

/-- By induction on the events: each of them leaves settings and lifecycle to the next one. -/
theorem drain_of_not_running {events : List Event}
    (hev : ∀ e ∈ events, (e.request s.config.hotkeys).boots = false) :
    (drain events s).result = .ok () ∧ Inert s (drain events s).trace (drain events s).state ∧
      replies (drain events s).trace = events.flatMap (Event.silentReply s.chunkFrames) := by
  induction events generalizing s with
  | nil => exact ⟨rfl, inert_law.refl s, rfl⟩
  | cons e rest ih =>
    obtain ⟨he, hrest⟩ := List.forall_mem_cons.mp hev
    obtain ⟨hok, hinert, hreplies⟩ := dispatch_of_not_running hs he
    rcases hd : dispatch e s with ⟨r, s', t⟩
    rw [hd] at hok hinert hreplies
    have hlife : s'.lifecycle ≠ .running := hinert.lifecycle ▸ hs
    have hframes : s'.chunkFrames = s.chunkFrames := by
      rw [chunkFrames, hinert.config, chunkFrames]
    obtain ⟨hok', hinert', hreplies'⟩ := ih hlife (hinert.config.symm ▸ hrest)
    subst hok
    rw [drain, Act.bind_of_ok hd]
    refine ⟨hok', inert_law.trans hinert hinert', ?_⟩
    rw [replies_append, hreplies, hreplies', hframes, List.flatMap_cons]

end NotRunning

/-- Until it is booted an unbooted session lets all events pass, each of them successfully. -/
theorem unbooted_inert (h : s.lifecycle = .unbooted) {events : List Event}
    (hev : ∀ e ∈ events, (e.request s.config.hotkeys).boots = false) :
    (drain events s).result = .ok () ∧ Inert s (drain events s).trace (drain events s).state ∧
      replies (drain events s).trace = events.flatMap (Event.silentReply s.chunkFrames) ∧
      ∀ e : Event, (e.request s.config.hotkeys).boots = false →
        (dispatch e (drain events s).state).result = .ok e.disposition := by
  have hs : s.lifecycle ≠ .running := by
    rw [h]
    exact nofun
  obtain ⟨hok, hinert, hreplies⟩ := drain_of_not_running hs hev
  refine ⟨hok, hinert, hreplies, fun e he => ?_⟩
  have hnext : (drain events s).state.lifecycle ≠ .running := hinert.lifecycle ▸ hs
  exact (dispatch_of_not_running hnext (hinert.config.symm ▸ he)).1

/-- Unbooted after a fault, with one key bound to two actions and to a modifier. -/
def clashing : Session :=
  { quiet with
    config := { hotkeys := { save := some 16, reset := some 16 } }
    vm := { quiet.vm with faulted := true } }

/-- The key saves, or would; the pull lends channels of different lengths. -/
def ignored : List Event :=
  [.key ⟨.down, 16, ""⟩, .padConnected 0 true, .frame .none, .audioPull ⟨#[1, 2, 3], #[4]⟩ true]

theorem unbooted_inert_clashing :
    (drain ignored clashing).result = .ok () ∧
      (drain ignored clashing).state.vm.machine.memory = clashing.vm.machine.memory ∧
      replies (drain ignored clashing).trace = [.silent clashing.chunkFrames] ∧
      (dispatch .save (drain ignored clashing).state).result = .ok .default := by
  have hev : ∀ e ∈ ignored, (e.request clashing.config.hotkeys).boots = false := by
    simp only [ignored, List.forall_mem_cons]
    exact ⟨by decide, rfl, rfl, rfl, nofun⟩
  obtain ⟨hok, hinert, hreplies, hnext⟩ := unbooted_inert (s := clashing) rfl hev
  obtain ⟨audio, boundPad, hs⟩ := hinert.rest
  refine ⟨hok, ?_, hreplies, hnext .save rfl⟩
  rw [hs]

end Session

end GuestHost
