import GuestHost.Proofs.Dealing
import GuestHost.Proofs.Protocol
import GuestHost.Proofs.Session.Guards

/-! Dealings with the guest, the guard before them and what the host does by itself: a relation that
holds of these three holds of every event that leaves the guest's memory to the guest. The others
are boots and restores. -/
namespace GuestHost.Session

variable {R : Session → List Output → Except Error Unit → Session → Prop}

section BringUp

variable (hR : Act.Flow R) (hnote : ∀ n, Act.Follows R (Act.note n))
  (hguest : ∀ {α : Type} {x : Act Error Vm α},
    (∀ g, Act.Follows (Vm.LeadsBy Error.Integration g) x) → Act.Follows R (onVm x))
include hR hnote hguest

theorem follows_loadAt (s : Session) (ptr : UInt32) : Act.Follows R (s.loadAt ptr) := by
  have hflush : Act.Follows R (onVm Vm.flushConsole) := hguest fun _ => .flushConsole
  refine .bind hR (hguest fun _ => .write id _ _) fun _ => .bind hR (hnote _) fun _ => ?_
  refine .bind hR (hguest fun _ => (Vm.LeadsBy.uses id).runMain) fun ran => ?_
  exact .ite hflush (.bind hR (hnote _) fun _ => hflush)

/-- What comes after the release of the input. -/
theorem follows_bringUp (s : Session) :
    R { s with input := s.input.reset } (bringUp s).trace (bringUp s).result (bringUp s).state := by
  have hload : ∀ s : Session, Act.Follows R (onVm Vm.romAddress >>= s.loadAt) := fun s =>
    .bind hR (hguest fun _ => (Vm.LeadsBy.uses id).romAddress) (follows_loadAt hR hnote hguest s)
  rw [← Act.map_unit (bringUp s).result]
  unfold bringUp
  rw [releaseInput, Act.modify_bind]
  refine Act.Follows.bind hR (hguest fun _ => (Vm.LeadsBy.uses id).init) (fun _ => ?_) _
  refine .bind hR (.get hR) fun s => ?_
  exact .ite (.bind hR (hnote _) fun _ => hload s) (hload s)

end BringUp

/-- Holds of the guard, wherever the guest is only called and its memory only read, and of all that
the host does and says without it. -/
structure Rules (R : Session → List Output → Except Error Unit → Session → Prop) : Prop
    extends Act.Flow R where
  aside : ∀ {s s' : Session} {t : List Output}, s'.vm = s.vm → s'.lifecycle = s.lifecycle →
    (∀ o ∈ t, o.fromHost = true) → R s t (.ok ()) s'
  guard : Act.Follows R requireRunning
  guest : ∀ {α : Type} {x : Act Error Vm α},
    (∀ {g R'}, Vm.Uses Error.Dealing g R' → Act.Follows R' x) → Act.Follows R (onVm x)

namespace Rules

variable (h : Rules R)
include h

theorem note (n : Notice) : Act.Follows R (Act.note n) :=
  fun _ => h.aside rfl rfl (List.forall_mem_singleton.mpr rfl)

theorem gesture : Act.Follows R (gesture : Act Error Session Unit) := by
  intro s
  rw [gesture_eq]
  exact h.aside rfl rfl (fromHost_wakeNotes s)

theorem update (pads : Gamepads) : Act.Follows R (update pads) := by
  have hgo : Act.Follows R (onVm Vm.update) := h.guest fun hu => hu.update
  refine .bind h.toFlow h.guard fun _ => .bind h.toFlow (.get h.toFlow) fun s => ?_
  rcases s.input.poll pads with ⟨input, change⟩
  refine .bind h.toFlow (fun s => h.aside rfl rfl nofun) fun _ => ?_
  cases change with
  | none => exact hgo
  | some i => exact .bind h.toFlow (h.guest fun hu => hu.keyboard i) fun _ => hgo

theorem pointer (e : PointerEvent) (b : Bounds) : Act.Follows R (pointer e b) := by
  have hrest : Act.Follows R (do
      requireRunning
      let s ← Act.get
      onVm (Vm.pointer (s.input.pointer e b))) :=
    .bind h.toFlow h.guard fun _ => .bind h.toFlow (.get h.toFlow) fun s =>
      h.guest fun hu => hu.pointer _
  exact .ite (.bind h.toFlow h.gesture fun _ => hrest) hrest

theorem wheel (delta : Binary64) : Act.Follows R (wheel delta) :=
  .bind h.toFlow h.guard fun _ => h.guest fun hu => hu.wheel delta

theorem save : Act.Follows R save :=
  .bind h.toFlow h.guard fun _ => .bind h.toFlow (h.guest fun hu => hu.take (.inr rfl)) fun _ =>
    .bind h.toFlow (h.note _) fun _ _ => h.aside rfl rfl nofun

/-- Writing to the guest is left to the relation. -/
theorem restore (hwrite : ∀ snapshot : Snapshot, Act.Follows R (onVm snapshot.restore)) :
    Act.Follows R restore := by
  refine .bind h.toFlow h.guard fun _ => .bind h.toFlow (.get h.toFlow) fun s => ?_
  cases s.snapshot with
  | none => exact h.note _
  | some snapshot => exact .bind h.toFlow (hwrite snapshot) fun _ => h.note _

theorem forwardKey (e : KeyEvent) : Act.Follows R (forwardKey e) := by
  refine .bind h.toFlow h.guard fun _ => .bind h.toFlow (.get h.toFlow) fun s => ?_
  rcases s.input.keyboard e with ⟨input, i⟩
  exact .bind h.toFlow (fun s => h.aside rfl rfl nofun) fun _ => h.guest fun hu => hu.keyboard i

theorem connect (index : UInt32) (standard : Bool) :
    Act.Follows R (connect index standard : Act Error Session Bool) := by
  refine fun s => h.aside rfl rfl fun o ho => ?_
  obtain ⟨n, -, rfl⟩ := List.mem_map.mp ho
  rfl

theorem disconnect (index : UInt32) :
    Act.Follows R (disconnect index : Act Error Session Unit) := by
  refine fun s => h.aside rfl rfl fun o ho => ?_
  simp only [Session.disconnect] at ho
  split at ho
  · rw [List.mem_singleton.mp ho]
    rfl
  · cases ho

theorem pull (chunk : Chunk) : Act.Follows R (pull chunk) := by
  intro s
  by_cases hs : s.lifecycle = .running
  · let ask : Act Error Vm Unit := fun vm =>
      ⟨(Vm.pullChunk s.chunkFrames (vm, chunk)).result,
        (Vm.pullChunk s.chunkFrames (vm, chunk)).state.1,
        (Vm.pullChunk s.chunkFrames (vm, chunk)).trace⟩
    have hask : ∀ {g R'}, Vm.Uses Error.Dealing g R' → Act.Follows R' ask :=
      fun hu vm => hu.pullChunk s.chunkFrames (vm, chunk)
    simp only [Session.pull, pullChunk_of_running hs]
    exact h.guest hask s
  · simp only [Session.pull, pullChunk_of_not_running hs]
    exact h.refl s

theorem answerPull (chunk : Chunk) (live : Bool) : Act.Follows R (answerPull chunk live) := by
  intro s
  have hp := h.pull chunk s
  rcases hr : Session.pullChunk (s, chunk) with ⟨e | _, ⟨s', c⟩, t⟩ <;>
    simp only [Session.pull, hr] at hp
  · rw [answerPull_of_error live hr]
    exact hp
  · rw [answerPull_of_ok live hr]
    refine h.trans hp (h.aside rfl rfl (List.forall_mem_singleton.mpr ?_))
    cases live <;> rfl

theorem obey {k : Hotkey} (hreset : k.request.boots = true → Act.Follows R reset)
    (hrestore : k.request = .restore → Act.Follows R Session.restore) :
    Act.Follows R (obey k) := by
  refine .bind h.toFlow (h.note _) fun _ => ?_
  cases k with
  | save => exact h.save
  | restore => exact hrestore rfl
  | reset => exact hreset rfl

variable {s : Session}

theorem keyboard {e : KeyEvent}
    (hreset : (e.request s.config.hotkeys).boots = true → Act.Follows R reset)
    (hrestore : e.request s.config.hotkeys = .restore → Act.Follows R Session.restore) :
    R s (keyboard e s).trace (keyboard e s).result (keyboard e s).state := by
  unfold KeyEvent.request at hreset hrestore
  rw [← Act.map_unit (Session.keyboard e s).result]
  cases hd : e.state with
  | up =>
    rw [keyboard_of_up hd]
    cases s.config.hotkeys.find? e.code with
    | none => exact h.forwardKey e s
    | some k => exact h.refl s
  | down =>
    rw [keyboard_of_down hd]
    refine Act.Follows.bind_at h.toFlow (h.gesture s) fun _ => ?_
    cases hk : s.config.hotkeys.find? e.code with
    | none => exact h.forwardKey e
    | some k =>
      rw [hk, hd] at hreset hrestore
      exact h.obey hreset hrestore

/-- One case for each kind of event; resets and restores may be none of their own. -/
theorem perform {e : Event}
    (hreset : (e.request s.config.hotkeys).boots = true → Act.Follows R reset)
    (hrestore : e.request s.config.hotkeys = .restore → Act.Follows R Session.restore) :
    R s (perform e s).trace (perform e s).result (perform e s).state := by
  have hplain : ∀ {x : Act Error Session Unit}, Act.Follows R x →
      R s (x s).trace (x s).result (x s).state := by
    intro x hx
    rw [← Act.map_unit (x s).result]
    exact hx s
  cases e with
  | frame pads => exact hplain (h.update pads)
  | pointer e b => exact hplain (h.pointer e b)
  | wheel delta => exact hplain (h.wheel delta)
  | key e => exact h.keyboard hreset hrestore
  | contextMenu => exact h.refl s
  | padConnected index standard =>
    exact hplain (.bind h.toFlow (h.connect index standard) fun _ => .pure h.toFlow ())
  | padDisconnected index => exact hplain (h.disconnect index)
  | audioPull chunk live => exact hplain (h.answerPull chunk live)
  | save => exact hplain h.save
  | restore => exact hplain (hrestore rfl)
  | reset => exact hplain (hreset rfl)

end Rules

end GuestHost.Session
