import GuestHost.Proofs.Session.Guards

/-! The parts of which all operations are made, and relations that each of them keeps. -/
namespace GuestHost.Session

/-- Calls that tell the guest nothing of the mask. -/
abbrev Maskless (c : Call) : Prop :=
  c.entry ≠ .onKeyboardEvent

section Input

variable {R : Session → List Output → Session → Prop} (hR : Act.Law R)
  (hinput : ∀ s input, R s [] { s with input })
  (htell : ∀ i, Act.Keeps R (onVm (Vm.keyboard i)))
include hR hinput htell

/-- For relations to which the input does not matter. -/
theorem keeps_update (hgo : Act.Keeps R (onVm Vm.update)) (pads : Gamepads) :
    Act.Keeps R (update pads) := by
  refine .bind hR hR.refl fun _ => .bind hR (.get hR) fun s => ?_
  rcases s.input.poll pads with ⟨input, change⟩
  refine .bind hR (fun s => hinput s input) fun _ => ?_
  cases change with
  | none => exact hgo
  | some i => exact .bind hR (htell i) fun _ => hgo

theorem keeps_forwardKey (e : KeyEvent) : Act.Keeps R (forwardKey e) := by
  refine .bind hR hR.refl fun _ => .bind hR (.get hR) fun s => ?_
  rcases s.input.keyboard e with ⟨input, i⟩
  exact .bind hR (fun s => hinput s input) fun _ => htell i

end Input

/-- Kept by every part of every operation. Input, saving and the course of a boot are left whole:
between their steps less holds than before and after. -/
structure Parts (R : Session → List Output → Session → Prop) : Prop extends Act.Law R where
  note : ∀ s {n : Notice}, n ≠ .booting → R s [.note n] s
  reply : ∀ s c, R s [.reply c] s
  guest : ∀ {α} {x : Act Error Vm α}, Act.Keeps (Vm.Within Maskless) x → Act.Keeps R (onVm x)
  gesture : Act.Keeps R (gesture : Act Error Session Unit)
  connect : ∀ index standard, Act.Keeps R (connect index standard : Act Error Session Bool)
  disconnect : ∀ index, Act.Keeps R (disconnect index : Act Error Session Unit)
  release : ∀ s, R s [.note .booting] { s with lifecycle := .booting, input := s.input.reset }
  enter : ∀ s l, R s [] { s with lifecycle := l }
  update : ∀ pads, Act.Keeps R (update pads)
  forwardKey : ∀ e, Act.Keeps R (forwardKey e)

namespace Parts

variable {R : Session → List Output → Session → Prop} (h : Parts R)
include h

/-- What the parts keep, they keep in every weaker sense that is a law. -/
theorem weaken {R' : Session → List Output → Session → Prop} (hR' : Act.Law R')
    (himp : ∀ {s t s'}, R s t s' → R' s t s') : Parts R' where
  toLaw := hR'
  note s _ hn := himp (h.note s hn)
  reply s c := himp (h.reply s c)
  guest hx := (h.guest hx).mono himp
  gesture := h.gesture.mono himp
  connect index standard := (h.connect index standard).mono himp
  disconnect index := (h.disconnect index).mono himp
  release s := himp (h.release s)
  enter s l := himp (h.enter s l)
  update pads := (h.update pads).mono himp
  forwardKey e := (h.forwardKey e).mono himp

theorem keeps_note {n : Notice} (hn : n ≠ .booting) :
    Act.Keeps R (Act.note n : Act Error Session Unit) :=
  fun s => h.note s hn

theorem keeps_requireRunning : Act.Keeps R requireRunning :=
  h.refl

/-- What follows the release of the input in a boot. -/
theorem keeps_bringUp (s : Session) :
    R { s with input := s.input.reset } (bringUp s).trace (bringUp s).state := by
  unfold bringUp
  rw [releaseInput, Act.modify_bind]
  refine Act.Keeps.bind h.toLaw (h.guest (.init nofun)) (fun _ => ?_) _
  refine .bind h.toLaw (.get h.toLaw) fun s => ?_
  have hload : Act.Keeps R (do
      let ptr ← onVm Vm.romAddress
      onVm (Vm.write ptr (s.rom.extract 0 s.romLength))
      Act.note (.romLoaded s.romLength ptr)
      unless ← onVm Vm.runMain do Act.note .noMain
      onVm Vm.flushConsole) := by
    refine .bind h.toLaw (h.guest (.romAddress nofun)) fun ptr => ?_
    refine .bind h.toLaw (h.guest (.write _ _)) fun _ => ?_
    refine .bind h.toLaw (h.keeps_note nofun) fun _ => ?_
    refine .bind h.toLaw (h.guest (.runMain nofun)) fun ran => ?_
    have hflush : Act.Keeps R (onVm Vm.flushConsole) := h.guest .flushConsole
    exact .ite hflush (.bind h.toLaw (h.keeps_note nofun) fun _ => hflush)
  exact .ite (.bind h.toLaw (h.keeps_note nofun) fun _ => hload) hload

theorem keeps_boot : Act.Keeps R boot := by
  intro s
  have hb := h.trans (h.release s) (h.keeps_bringUp { s with lifecycle := .booting })
  rcases hr : bringUp { s with lifecycle := .booting } with ⟨e | _, s', t⟩ <;> rw [hr] at hb
  · rw [boot_of_error hr]
    exact h.trans hb (h.trans (h.enter s' .unbooted) (h.note _ nofun))
  · rw [boot_of_ok hr]
    exact h.trans hb (h.trans (h.enter s' .running) (h.note _ nofun))

theorem keeps_reset : Act.Keeps R reset :=
  .bind h.toLaw (h.keeps_note nofun) fun _ => h.keeps_boot

theorem keeps_pointer (e : PointerEvent) (b : Bounds) : Act.Keeps R (pointer e b) := by
  have hrest : Act.Keeps R (do
      requireRunning
      let s ← Act.get
      onVm (Vm.pointer (s.input.pointer e b))) :=
    .bind h.toLaw h.keeps_requireRunning fun _ => .bind h.toLaw (.get h.toLaw) fun s =>
      h.guest (.pointer _ nofun)
  exact .ite (.bind h.toLaw h.gesture fun _ => hrest) hrest

theorem keeps_wheel (delta : Binary64) : Act.Keeps R (wheel delta) :=
  .bind h.toLaw h.keeps_requireRunning fun _ => h.guest (.wheel delta nofun nofun)

theorem keeps_restore : Act.Keeps R restore := by
  refine .bind h.toLaw h.keeps_requireRunning fun _ => .bind h.toLaw (.get h.toLaw) fun s => ?_
  cases s.snapshot with
  | none => exact h.keeps_note nofun
  | some snapshot =>
    exact .bind h.toLaw (h.guest (.restore snapshot nofun nofun)) fun _ => h.keeps_note nofun

theorem keeps_pull (chunk : Chunk) : Act.Keeps R (pull chunk) := by
  intro s
  by_cases hs : s.lifecycle = .running
  · have hask : Act.Keeps (Vm.Within Maskless) (fun vm =>
        (⟨(Vm.pullChunk s.chunkFrames (vm, chunk)).result,
          (Vm.pullChunk s.chunkFrames (vm, chunk)).state.1,
          (Vm.pullChunk s.chunkFrames (vm, chunk)).trace⟩ : Outcome Error Vm Unit)) :=
      fun vm => Vm.Within.pullChunk s.chunkFrames nofun (vm, chunk)
    simp only [pull, pullChunk_of_running hs]
    exact h.guest hask s
  · simp only [pull, pullChunk_of_not_running hs]
    exact h.refl s

theorem keeps_obey (k : Hotkey) (hsave : k = .save → Act.Keeps R save) :
    Act.Keeps R (obey k) := by
  refine .bind h.toLaw (h.keeps_note nofun) fun _ => ?_
  cases k with
  | save => exact hsave rfl
  | restore => exact h.keeps_restore
  | reset => exact h.keeps_reset

theorem keeps_keyboard {s : Session} {e : KeyEvent}
    (hsave : s.savesOn (.key e) ≠ none → Act.Keeps R save) :
    R s (keyboard e s).trace (keyboard e s).state := by
  cases he : e.state with
  | up =>
    rw [keyboard_of_up he]
    cases s.config.hotkeys.find? e.code with
    | none => exact h.forwardKey e s
    | some k => exact h.refl s
  | down =>
    rw [keyboard_of_down he]
    refine Act.Keeps.bind_at h.toLaw (h.gesture s) fun _ => ?_
    cases hk : s.config.hotkeys.find? e.code with
    | none => exact h.forwardKey e
    | some k =>
      refine h.keeps_obey k fun hk' => hsave ?_
      rw [savesOn, if_pos ⟨he, hk' ▸ hk⟩]
      exact Option.some_ne_none _

theorem keeps_answerPull (chunk : Chunk) (live : Bool) : Act.Keeps R (answerPull chunk live) := by
  intro s
  have hp := h.keeps_pull chunk s
  simp only [pull] at hp
  simp only [answerPull]
  cases (pullChunk (s, chunk)).result with
  | error e => simpa using hp
  | ok a =>
    cases live with
    | true => exact h.trans hp (h.reply _ _)
    | false => exact h.trans hp (h.note _ (Notice.noConfusion ·))

theorem keeps_perform {s : Session} {e : Event} (hsave : s.savesOn e ≠ none → Act.Keeps R save) :
    R s (perform e s).trace (perform e s).state := by
  cases e with
  | frame pads => exact h.update pads s
  | pointer e b => exact h.keeps_pointer e b s
  | wheel delta => exact h.keeps_wheel delta s
  | key e => exact h.keeps_keyboard hsave
  | contextMenu => exact h.refl s
  | padConnected index standard =>
    exact Act.Keeps.bind h.toLaw (h.connect index standard) (fun _ => .pure h.toLaw ()) s
  | padDisconnected index => exact h.disconnect index s
  | audioPull chunk live => exact h.keeps_answerPull chunk live s
  | save => exact hsave (Option.some_ne_none s) s
  | restore => exact h.keeps_restore s
  | reset => exact h.keeps_reset s

theorem keeps_dispatch {s : Session} {e : Event} (hsave : s.savesOn e ≠ none → Act.Keeps R save) :
    R s (dispatch e s).trace (dispatch e s).state := by
  obtain ⟨hstate, htrace⟩ := dispatch_same e s
  have hp := h.keeps_perform hsave
  rw [hstate]
  rcases htrace with ht | ⟨err, ht⟩ <;> rw [ht]
  · exact hp
  · exact h.trans hp (h.note _ nofun)

theorem keeps_act {s : Session} {op : Operation}
    (hsave : op.savesOn s ≠ none → Act.Keeps R save) :
    R s (op.act s).trace (op.act s).state := by
  cases op with
  | boot => exact h.keeps_boot s
  | reset => exact h.keeps_reset s
  | update pads => exact h.update pads s
  | pointer e b => exact h.keeps_pointer e b s
  | wheel delta => exact h.keeps_wheel delta s
  | key e => exact h.keeps_keyboard hsave
  | connect index standard =>
    exact Act.Keeps.bind h.toLaw (h.connect index standard) (fun _ => .pure h.toLaw ()) s
  | disconnect index => exact h.disconnect index s
  | save => exact hsave (Option.some_ne_none s) s
  | restore => exact h.keeps_restore s
  | pull chunk => exact h.keeps_pull chunk s
  | dispatch e =>
    rw [act_dispatch]
    exact h.keeps_dispatch hsave
  | poke addr bytes => exact h.guest (.write addr bytes) s

/-- By induction on the operations: what each of them keeps, all of them keep. -/
theorem keeps_performAll (hsave : Act.Keeps R save) (ops : List Operation) :
    Act.Keeps R (performAll ops) := by
  induction ops with
  | nil => exact h.refl
  | cons op rest ih =>
    exact .bind h.toLaw (.attempt fun s => h.keeps_act fun _ => hsave) fun _ => ih

end Parts

/-- Settings, image and entry points are those of the creation. -/
structure SameSetup (s : Session) (t : List Output) (s' : Session) : Prop where
  config : s'.config = s.config
  rom : s'.rom = s.rom
  entry : s'.vm.entry = s.vm.entry

theorem sameSetup_law : Act.Law SameSetup where
  refl _ := ⟨rfl, rfl, rfl⟩
  trans h h' :=
    ⟨h'.config.trans h.config, h'.rom.trans h.rom, h'.entry.trans h.entry⟩

theorem sameSetup_guest {α : Type} {x : Act Error Vm α} {P : Call → Prop}
    (hx : Act.Keeps (Vm.Within P) x) : Act.Keeps SameSetup (onVm x) :=
  fun s => ⟨rfl, rfl, (hx s.vm).entry⟩

theorem sameSetup_tell (i : KeyboardInput) : Act.Keeps SameSetup (onVm (Vm.keyboard i)) :=
  sameSetup_guest (Vm.Within.keyboard (P := fun _ => True) i trivial)

theorem sameSetup_parts : Parts SameSetup where
  toLaw := sameSetup_law
  note _ _ _ := ⟨rfl, rfl, rfl⟩
  reply _ _ := ⟨rfl, rfl, rfl⟩
  guest := sameSetup_guest
  gesture _ := ⟨rfl, rfl, rfl⟩
  connect _ _ _ := ⟨rfl, rfl, rfl⟩
  disconnect _ _ := ⟨rfl, rfl, rfl⟩
  release _ := ⟨rfl, rfl, rfl⟩
  enter _ _ := ⟨rfl, rfl, rfl⟩
  update := keeps_update sameSetup_law (fun _ _ => ⟨rfl, rfl, rfl⟩) sameSetup_tell
    (sameSetup_guest (Vm.Within.update (P := fun _ => True) trivial))
  forwardKey := keeps_forwardKey sameSetup_law (fun _ _ => ⟨rfl, rfl, rfl⟩) sameSetup_tell

theorem sameSetup_save : Act.Keeps SameSetup save := by
  refine .bind sameSetup_law sameSetup_law.refl fun _ => ?_
  refine .bind sameSetup_law (sameSetup_guest (P := fun _ => True) (.take trivial trivial)) ?_
  exact fun snapshot => .bind sameSetup_law (fun _ => ⟨rfl, rfl, rfl⟩) fun _ _ => ⟨rfl, rfl, rfl⟩

theorem sameSetup_act (op : Operation) : Act.Keeps SameSetup op.act :=
  fun _ => sameSetup_parts.keeps_act fun _ => sameSetup_save

theorem sameSetup_performAll (ops : List Operation) : Act.Keeps SameSetup (performAll ops) :=
  sameSetup_parts.keeps_performAll sameSetup_save ops

end GuestHost.Session
