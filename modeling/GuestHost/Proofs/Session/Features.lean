import GuestHost.Proofs.Session.Course
import GuestHost.Proofs.Session.Fault

/-! Entry points that a guest may leave out. Without a handler its events are dropped, and without
samples there is silence. A state is declared by two accessors: without either of them nothing is
asked, but one that is left alone is still called before the host finds that the other is
missing. -/
namespace GuestHost

/-- The one accessor of a state that the guest has, if it lacks the other. -/
def Guest.Entrypoints.loneAccessor (g : Guest.Entrypoints) : Option (Call × Routine UInt32) :=
  match g.statePtr, g.stateSize with
  | some ask, none => some (.statePtr, ask)
  | none, some ask => some (.stateSize, ask)
  | _, _ => none

theorem Guest.Entrypoints.alone_of_loneAccessor {g : Guest.Entrypoints} {c : Call}
    {ask : Routine UInt32} (h : g.loneAccessor = some (c, ask)) :
    (c = .statePtr ∧ g.statePtr = some ask ∧ g.stateSize = none) ∨
      (c = .stateSize ∧ g.statePtr = none ∧ g.stateSize = some ask) := by
  unfold loneAccessor at h
  split at h <;> cases h
  · exact .inl ⟨rfl, ‹_›, ‹_›⟩
  · exact .inr ⟨rfl, ‹_›, ‹_›⟩

namespace Vm

variable {vm : Vm} (hf : vm.faulted = false)
include hf

theorem pointer_of_none (h : vm.entry.onPointer = none) (i : PointerInput) :
    pointer i vm = ⟨.ok (), vm, []⟩ := by
  rw [pointer, Act.get_bind, h]
  exact Act.bind_of_silent (callIf_none hf)

theorem wheel_of_none (h : vm.entry.onWheel = none) (delta : Binary64) :
    wheel delta vm = ⟨.ok (), vm, []⟩ := by
  rw [wheel, Act.get_bind, h]
  exact Act.bind_of_silent (callIf_none hf)

theorem keyboard_of_none (h : vm.entry.onKeyboard = none) (i : KeyboardInput) :
    keyboard i vm = ⟨.ok (), vm, []⟩ := by
  rw [keyboard, Act.get_bind, h]
  exact Act.bind_of_silent (callIf_none hf)

theorem samplesAddress_of_none (h : vm.entry.audioSamples = none) :
    samplesAddress vm = ⟨.ok none, vm, []⟩ := by
  rw [samplesAddress, Act.get_bind, h]
  exact callIf_none hf

theorem pullChunk_of_none (h : vm.entry.audioSamples = none) (frames : Nat) (chunk : Chunk) :
    pullChunk frames (vm, chunk) = ⟨.ok (), (vm, .silent frames), []⟩ :=
  pullChunk_of_silent frames chunk (samplesAddress_of_none hf h)

theorem declaredState_of_none (hp : vm.entry.statePtr = none) (hs : vm.entry.stateSize = none) :
    declaredState vm = ⟨.ok none, vm, []⟩ := by
  rw [declaredState, Act.get_bind, hp, hs]
  exact (Act.bind_of_silent (callIf_none hf)).trans (Act.bind_of_silent (callIf_none hf))

variable {c : Call} {ask : Routine UInt32} {m : Machine} {t : List Output}
  (h : vm.entry.loneAccessor = some (c, ask))
include h

theorem declaredState_of_answered {a : UInt32} (hrun : ask.run vm.machine = ⟨.ok a, m, t⟩) :
    declaredState vm = ⟨.ok none, { vm with machine := m }, .call c :: t⟩ := by
  have hask : callIf (some (c, ask)) vm = _ := callIf_of_ok hf hrun
  rcases Guest.Entrypoints.alone_of_loneAccessor h with ⟨rfl, hp, hs⟩ | ⟨rfl, hp, hs⟩ <;>
    rw [declaredState, Act.get_bind, hp, hs, Option.map_some, Option.map_none]
  · refine (Act.bind_of_ok hask).trans ?_
    rw [Act.bind_of_silent (callIf_none (by exact hf))]
    exact congrArg (Outcome.mk _ _) (List.append_nil _)
  · refine (Act.bind_of_silent (callIf_none hf)).trans ((Act.bind_of_ok hask).trans ?_)
    exact congrArg (Outcome.mk _ _) (List.append_nil _)

theorem declaredState_of_stopped {stop : Stop} (hrun : ask.run vm.machine = ⟨.error stop, m, t⟩) :
    declaredState vm = ⟨.error (stop.error c.entry), { vm with machine := m, faulted := true },
      .call c :: t ++ [.note (.guestFaulted (stop.error c.entry))]⟩ := by
  have hask : callIf (some (c, ask)) vm = _ := callIf_of_error hf hrun
  rcases Guest.Entrypoints.alone_of_loneAccessor h with ⟨rfl, hp, hs⟩ | ⟨rfl, hp, hs⟩ <;>
    rw [declaredState, Act.get_bind, hp, hs]
  · exact Act.bind_of_error hask
  · exact (Act.bind_of_silent (callIf_none hf)).trans (Act.bind_of_error hask)

end Vm

namespace Session

variable {s : Session}

/-- What an action on the guest's state comes to when the guest lacks an accessor. What a lone one
answers is of no use, but what it does is done. -/
structure Undeclared (s : Session) (x : Act Error Session Unit) : Prop where
  stalls : s.vm.entry.statePtr = none → s.vm.entry.stateSize = none →
    Stalls s x (.error (.unsupported Entry.getStatePtr.name))
  answered : ∀ {c ask a m t}, s.vm.entry.loneAccessor = some (c, ask) →
    ask.run s.vm.machine = ⟨.ok a, m, t⟩ →
      x s = ⟨.error (.unsupported Entry.getStatePtr.name),
        { s with vm := { s.vm with machine := m } }, .call c :: t⟩
  stopped : ∀ {c ask stop m t}, s.vm.entry.loneAccessor = some (c, ask) →
    ask.run s.vm.machine = ⟨.error stop, m, t⟩ →
      x s = ⟨.error (stop.error c.entry),
        { s with vm := { s.vm with machine := m, faulted := true } },
        .call c :: t ++ [.note (.guestFaulted (stop.error c.entry))]⟩

theorem undeclared_of_region {x : Act Error Session Unit} (hf : s.vm.faulted = false)
    (hx : ∀ {e vm t}, Snapshot.region s.vm = ⟨.error e, vm, t⟩ →
      x s = ⟨.error e, { s with vm }, t⟩) : Undeclared s x where
  stalls hp hs :=
    .of_eq (hx (Act.bind_of_silent (Vm.declaredState_of_none hf hp hs))) (Frozen.law.refl s)
  answered h hrun := by
    refine hx ((Act.bind_of_ok (Vm.declaredState_of_answered hf h hrun)).trans ?_)
    exact congrArg (Outcome.mk _ _) (List.append_nil _)
  stopped h hrun := hx (Act.bind_of_error (Vm.declaredState_of_stopped hf h hrun))

theorem undeclared_save (hs : s.lifecycle = .running) (hf : s.vm.faulted = false) :
    Undeclared s save :=
  undeclared_of_region hf fun hr =>
    (save_of_running hs).trans (Act.bind_of_error (onVm_eq (Act.bind_of_error hr)))

/-- What a running session does where its guest lacks an entry point. -/
structure Degrades (s : Session) : Prop where
  pointer : s.vm.entry.onPointer = none → ∀ e b, Stalls s (pointer e b) (.ok ())
  wheel : s.vm.entry.onWheel = none → ∀ delta, Stalls s (wheel delta) (.ok ())
  keyboard : s.vm.entry.onKeyboard = none → ∀ e, s.config.hotkeys.find? e.code = none →
    Stalls s (keyboard e) (.ok ())
  pull : s.vm.entry.audioSamples = none → ∀ chunk,
    pullChunk (s, chunk) = ⟨.ok (), (s, .silent s.chunkFrames), []⟩
  save : Undeclared s save
  restore : s.snapshot.isSome → Undeclared s restore

theorem stalls_pointer_of_none (hs : s.lifecycle = .running) (hf : s.vm.faulted = false)
    (h : s.vm.entry.onPointer = none) (e : PointerEvent) (b : Bounds) :
    Stalls s (pointer e b) (.ok ()) := by
  have hrest : ∀ s' : Session, s'.lifecycle = .running → s'.vm = s.vm →
      Stalls s' (requireRunning >>= fun _ => Act.get >>= fun s =>
        onVm (Vm.pointer (s.input.pointer e b))) (.ok ()) := by
    intro s' hs' hvm
    have hpoint := Vm.pointer_of_none (hvm ▸ hf) (hvm ▸ h) (s'.input.pointer e b)
    refine .of_eq ((Act.bind_of_silent (requireRunning_of_running hs')).trans (onVm_eq hpoint)) ?_
    exact Frozen.law.refl s'
  by_cases hd : e.kind = .down
  · have hafter := Stalls.after (gesture_eq s) (frozen_gesture s) (hrest s.woken hs rfl)
    exact .congr (pointer_of_down hd b s) hafter
  · exact .congr (pointer_of_not_down hd b s) (hrest s hs rfl)

theorem stalls_forwardKey_of_none (hs : s.lifecycle = .running) (hf : s.vm.faulted = false)
    (h : s.vm.entry.onKeyboard = none) (e : KeyEvent) : Stalls s (forwardKey e) (.ok ()) := by
  have htell := onVm_eq (s := { s with input := (s.input.keyboard e).1 })
    (Vm.keyboard_of_none hf h (s.input.keyboard e).2)
  exact .of_eq ((forwardKey_of_running hs e).trans htell) (.input s _)

/-- A missing entry point takes away its own feature and nothing else; only a lone accessor can do
more, all that its code does. -/
theorem missing_entry_degrades (hs : s.lifecycle = .running) (hf : s.vm.faulted = false) :
    s.Degrades where
  pointer h e b := stalls_pointer_of_none hs hf h e b
  wheel h delta := by
    have hturn := onVm_eq (Vm.wheel_of_none hf h delta)
    exact .of_eq ((wheel_of_running hs delta).trans hturn) (Frozen.law.refl s)
  keyboard h e hk := by
    cases he : e.state with
    | up =>
      refine .congr (keyboard_of_up he s) ?_
      rw [hk]
      exact stalls_forwardKey_of_none hs hf h e
    | down =>
      refine .congr (keyboard_of_down he s) (.after (gesture_eq s) (frozen_gesture s) ?_)
      rw [hk]
      exact stalls_forwardKey_of_none (s := s.woken) hs hf h e
  pull h chunk := pullChunk_eq hs (Vm.pullChunk_of_none hf h s.chunkFrames chunk)
  save := undeclared_save hs hf
  restore hsome := by
    obtain ⟨snapshot, hsnap⟩ := Option.isSome_iff_exists.mp hsome
    exact undeclared_of_region hf fun hr =>
      (restore_of_some hs hsnap).trans (Act.bind_of_error (onVm_eq (Act.bind_of_error hr)))

end Session

namespace Session

/-- Its guest has half of what declares a state, and fails when it is asked. -/
def half : Session :=
  bare [(Entry.getStateSize.name, .func (.own ⟨[], [.i32]⟩ fun _ => .trap .unreachable))]

theorem half_boot : (boot half).state.lifecycle = .running ∧
    (boot half).state.vm.faulted = false ∧ (boot half).state.vm.entry = half.vm.entry := by
  obtain ⟨memory, t, -, hb⟩ : ∃ memory t, _ ∧ boot half = _ := boot_bare _ rfl
  have hstate : (boot half).state = { half.withMemory memory with lifecycle := .running } :=
    congrArg Outcome.state hb
  rw [hstate]
  exact ⟨rfl, rfl, rfl⟩

theorem half_lone : (boot half).state.vm.entry.loneAccessor =
    some (.stateSize, .own (.trap .unreachable)) := by
  rw [half_boot.2.2]
  rfl

/-- The wheel of this guest is of no use and does no harm, but its half of a state is fatal. -/
theorem missing_entry_degrades_half :
    (wheel ⟨0⟩ (boot half).state).result = .ok () ∧
      (save (boot half).state).result = .error (Stop.error .getStateSize (.trap .unreachable)) := by
  obtain ⟨hrun, hopen, hentry⟩ := half_boot
  have hdegrades := missing_entry_degrades hrun hopen
  have hwheel : (boot half).state.vm.entry.onWheel = none := by
    rw [hentry]
    rfl
  exact ⟨(hdegrades.wheel hwheel ⟨0⟩).result,
    congrArg Outcome.result (hdegrades.save.stopped half_lone rfl)⟩

/-- Not every guest that declares no state is merely unable to save. -/
theorem half_not_unsupported : ¬∀ s : Session, s.Reachable → s.lifecycle = .running →
    s.vm.faulted = false → s.vm.entry.statePtr = none ∨ s.vm.entry.stateSize = none →
      (save s).result = .error (.unsupported Entry.getStatePtr.name) ∧
        (save s).state.vm.faulted = false := by
  intro hall
  obtain ⟨hrun, hopen, hentry⟩ := half_boot
  have hlacks : (boot half).state.vm.entry.statePtr = none := by
    rw [hentry]
    rfl
  have hreached : (boot half).state.Reachable := (bare_created _).reachable_act .boot
  have hsave := hall (boot half).state hreached hrun hopen (.inl hlacks)
  have hstopped := (undeclared_save hrun hopen).stopped half_lone rfl
  rw [hstopped] at hsave
  exact Bool.noConfusion hsave.2

end Session

end GuestHost
