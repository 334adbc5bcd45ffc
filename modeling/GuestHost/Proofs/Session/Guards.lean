import GuestHost.Proofs.Guest.Visit
import GuestHost.Proofs.Memory
import GuestHost.Proofs.Session.Operation

/-! Where operations turn aside: guards that refuse, gestures that come first, keys that are bound
to an action, and boots that fail. -/
namespace GuestHost

/-- The event of the action that a hotkey asks for. -/
def Hotkey.event : Hotkey → Event
  | .save => .save
  | .restore => .restore
  | .reset => .reset

namespace Session

variable {s s' : Session} {t : List Output}

theorem onVm_eq {α : Type} {x : Act Error Vm α} {r : Except Error α} {vm : Vm}
    {t : List Output} (h : x s.vm = ⟨r, vm, t⟩) : onVm x s = ⟨r, { s with vm }, t⟩ := by
  simp only [onVm, Act.on, h]

theorem onVm_bind {α β : Type} (x : Act Error Vm α) (f : α → Act Error Vm β) :
    onVm (x >>= f) = onVm x >>= fun a => onVm (f a) := by
  funext s
  rcases hx : x s.vm with ⟨e | a, vm, t⟩
  · rw [Act.bind_of_error (onVm_eq hx), onVm_eq (Act.bind_of_error hx)]
  · rw [Act.bind_of_ok (onVm_eq hx), onVm_eq (Act.bind_of_ok hx)]
    rfl

theorem makes_onVm {α : Type} {x : Act Error Vm α} {cs : List Call} {r : Except Error α} {vm : Vm}
    (h : x.Makes s.vm cs r vm) : (onVm x).Makes s cs r { s with vm } :=
  .on h

theorem requireRunning_of_running (h : s.lifecycle = .running) :
    requireRunning s = ⟨.ok (), s, []⟩ := by
  simp only [requireRunning, h, if_true]

theorem requireRunning_of_not_running (h : s.lifecycle ≠ .running) :
    requireRunning s = ⟨.error .notRunning, s, []⟩ := by
  simp only [requireRunning, h, if_false]

/-- The image as far as there is room for it. -/
def loadedRom (s : Session) : ByteArray :=
  s.rom.extract 0 s.romLength

theorem size_loadedRom (s : Session) : s.loadedRom.size = s.romLength := by
  have hle : s.romLength ≤ s.rom.size := Nat.min_le_left _ _
  rw [loadedRom, ByteArray.size_extract]
  omega

/-- No place for an image is too high to count its end. -/
theorem romLength_lt_bound (s : Session) (ptr : UInt32) :
    ptr.toNat + s.romLength < Word.bound := by
  have hcapacity : s.romLength ≤ s.config.memory.size.toNat - _ := Nat.min_le_right _ _
  have hptr := ptr.toNat_lt
  have hsize := s.config.memory.size.toNat_lt
  rw [Word.bound]
  omega

/-- The second half of a boot, from where the guest has told where it wants its image. -/
def loadAt (s : Session) (ptr : UInt32) : Act Error Session Unit := do
  onVm (Vm.write ptr s.loadedRom)
  Act.note (.romLoaded s.romLength ptr)
  unless ← onVm Vm.runMain do Act.note .noMain
  onVm Vm.flushConsole

section BringUp

variable {vm₁ vm₂ : Vm} {ptr : UInt32} {cs₁ cs₂ cs : List Call} {r : Except Error Unit}

/-- Once the guest is initialized it is asked for the place of its image. -/
theorem bringUp_of_init (hi : Vm.init.Makes s.vm cs₁ (.ok ()) vm₁)
    (hask : (onVm Vm.romAddress >>= fun ptr => s.loadAt ptr).Makes
      { s with vm := vm₁, input := s.input.reset } cs r s') :
    bringUp.Makes s (cs₁ ++ cs) r s' := by
  let s₁ : Session := { s with input := s.input.reset }
  have hinit : (onVm Vm.init).Makes s₁ cs₁ (.ok ()) { s₁ with vm := vm₁ } := makes_onVm hi
  unfold bringUp
  refine .after ⟨_, rfl, rfl⟩ (hinit.bind (.after ⟨_, rfl, rfl⟩ ?_))
  by_cases hc : s.romLength < s.rom.size
  · rw [if_pos (show romLength { s₁ with vm := vm₁ } < s.rom.size from hc)]
    exact .after ⟨_, rfl, rfl⟩ hask
  · rw [if_neg (show ¬romLength { s₁ with vm := vm₁ } < s.rom.size from hc)]
    exact hask

theorem bringUp_of_ptr (hi : Vm.init.Makes s.vm cs₁ (.ok ()) vm₁)
    (hp : Vm.romAddress.Makes vm₁ cs₂ (.ok ptr) vm₂)
    (hload : (s.loadAt ptr).Makes { s with vm := vm₂, input := s.input.reset } cs r s') :
    bringUp.Makes s (cs₁ ++ (cs₂ ++ cs)) r s' := by
  let s₁ : Session := { s with vm := vm₁, input := s.input.reset }
  have hask : (onVm Vm.romAddress).Makes s₁ cs₂ (.ok ptr) { s₁ with vm := vm₂ } := makes_onVm hp
  exact bringUp_of_init hi (hask.bind hload)

theorem loadAt_of_misfit (s : Session) {s₂ : Session}
    (hover : s₂.vm.memory.size < ptr.toNat + s.romLength) :
    (s.loadAt ptr).Makes s₂ []
      (.error (.outOfRange ptr.toNat s.romLength s₂.vm.memory.size)) s₂ := by
  rw [← size_loadedRom] at hover ⊢
  have hwrite : (Vm.write ptr s.loadedRom).Makes s₂.vm []
      (.error (.outOfRange ptr.toNat s.loadedRom.size s₂.vm.memory.size)) s₂.vm :=
    ⟨[], Vm.write_of_error (Memory.write_of_lt hover), rfl⟩
  exact .bind_error (makes_onVm hwrite)

section Fits

variable {s₂ : Session} {memory : Memory} {vm₄ : Vm} (s : Session)
  (hw : s₂.vm.memory.write ptr s.loadedRom = .ok memory)
include hw

theorem loadAt_of_ok {ran : Bool}
    (hm : Vm.runMain.Makes (s₂.vm.withMemory memory) cs (.ok ran) vm₄) :
    (s.loadAt ptr).Makes s₂ cs (.ok ())
      { s₂ with vm := (Vm.flushConsole vm₄ : Outcome Error Vm Unit).state } := by
  have hwrite : (Vm.write ptr s.loadedRom).Makes s₂.vm [] (.ok ()) (s₂.vm.withMemory memory) :=
    ⟨[], Vm.write_of_ok hw, rfl⟩
  have hflush : Vm.flushConsole.Makes vm₄ [] (.ok ())
      (Vm.flushConsole vm₄ : Outcome Error Vm Unit).state := by
    have hheld := Machine.keeps_flushConsole vm₄.machine
    exact ⟨_, rfl, calls_of_fromGuest hheld.shown⟩
  have hend : (onVm Vm.flushConsole).Makes { s₂ with vm := vm₄ } [] (.ok ()) _ :=
    makes_onVm (s := { s₂ with vm := vm₄ }) hflush
  refine .after (makes_onVm hwrite) (.after ⟨_, rfl, rfl⟩ ?_)
  rw [← List.append_nil cs]
  refine .bind (makes_onVm (s := { s₂ with vm := s₂.vm.withMemory memory }) hm) ?_
  cases ran with
  | true => exact hend
  | false => exact .after ⟨_, rfl, rfl⟩ hend

end Fits

end BringUp

theorem boot_of_ok (h : bringUp { s with lifecycle := .booting } = ⟨.ok (), s', t⟩) :
    boot s = ⟨.ok (), { s' with lifecycle := .running },
      .note .booting :: (t ++ [.note .running])⟩ := by
  have ha : Act.attempt bringUp { s with lifecycle := .booting } =
      (⟨.ok (.ok ()), s', t⟩ : Outcome Error _ _) := by
    simp only [Act.attempt, h]
  rw [boot, Act.note_bind, enterState, Act.modify_bind, Act.bind_of_ok ha]
  rfl

theorem boot_of_error {e : Error}
    (h : bringUp { s with lifecycle := .booting } = ⟨.error e, s', t⟩) :
    boot s = ⟨.error e, { s' with lifecycle := .unbooted },
      .note .booting :: (t ++ [.note (.bootFailed e)])⟩ := by
  have ha : Act.attempt bringUp { s with lifecycle := .booting } =
      (⟨.ok (.error e), s', t⟩ : Outcome Error _ _) := by
    simp only [Act.attempt, h]
  rw [boot, Act.note_bind, enterState, Act.modify_bind, Act.bind_of_ok ha]
  rfl

section Bare

variable (others : Guest.Exports)

theorem size_bare : (bare others).vm.memory.size = Memory.pageSize :=
  (Memory.size_blank 1 none).trans (Nat.one_mul _)

theorem fits_bare :
    (0 : UInt32).toNat + (bare others).romLength ≤ (bare others).vm.memory.size := by
  have hroom : 1 ≤ ({} : Config).memory.romCapacity := by decide
  have hlen : (bare others).romLength = 1 := Nat.min_eq_left hroom
  rw [hlen, size_bare]
  decide

theorem boot_bare (hm : (bare others).vm.entry.runMain = none) :
    ∃ memory t, memory.size = Memory.pageSize ∧ boot (bare others) =
      ⟨.ok (), { (bare others).withMemory memory with lifecycle := .running }, t⟩ := by
  have hfits := fits_bare others
  rw [← size_loadedRom] at hfits
  obtain ⟨memory, hsize, hw⟩ :=
    Memory.exists_write hfits (size_loadedRom _ ▸ romLength_lt_bound _ 0)
  let s : Session := { bare others with lifecycle := .booting }
  have hinit : Vm.init s.vm = ⟨.ok (), s.vm, [.call .init]⟩ := rfl
  have hptr : Vm.romAddress s.vm = ⟨.ok 0, s.vm, [.call .romPtr]⟩ := rfl
  have hmain : Vm.runMain (s.vm.withMemory memory) =
      ⟨.ok false, s.vm.withMemory memory, []⟩ := by
    rw [Vm.runMain, Act.get_bind, show (s.vm.withMemory memory).entry.runMain = none from hm]
    rfl
  have hload : (s.loadAt 0).Makes { s with input := s.input.reset } _ (.ok ()) _ :=
    loadAt_of_ok s hw (.of_eq hmain)
  rw [Vm.flushConsole_of_isEmpty rfl] at hload
  obtain ⟨t, ht, -⟩ := bringUp_of_ptr (.of_eq hinit) (.of_eq hptr) hload
  exact ⟨memory, _, hsize.trans (size_bare others), (boot_of_ok ht).trans rfl⟩

end Bare

theorem quiet_boot : ∃ memory t, memory.size = Memory.pageSize ∧
    boot quiet = ⟨.ok (), { quiet.withMemory memory with lifecycle := .running }, t⟩ :=
  boot_bare _ rfl

theorem update_of_unchanged {pads : Gamepads} (h : s.lifecycle = .running)
    (hc : (s.input.poll pads).2 = none) :
    update pads s = onVm Vm.update { s with input := (s.input.poll pads).1 } := by
  rw [update, Act.bind_of_silent (requireRunning_of_running h), Act.get_bind]
  rcases hp : s.input.poll pads with ⟨input, change⟩
  cases (congrArg Prod.snd hp).symm.trans hc
  rfl

theorem update_of_changed {pads : Gamepads} {i : KeyboardInput} (h : s.lifecycle = .running)
    (hc : (s.input.poll pads).2 = some i) :
    update pads s = (onVm (Vm.keyboard i) >>= fun _ => onVm Vm.update)
      { s with input := (s.input.poll pads).1 } := by
  rw [update, Act.bind_of_silent (requireRunning_of_running h), Act.get_bind]
  rcases hp : s.input.poll pads with ⟨input, change⟩
  cases (congrArg Prod.snd hp).symm.trans hc
  rfl

theorem update_of_not_running (h : s.lifecycle ≠ .running) (pads : Gamepads) :
    update pads s = ⟨.error .notRunning, s, []⟩ :=
  Act.bind_of_error (requireRunning_of_not_running h)

theorem forwardKey_of_running (h : s.lifecycle = .running) (e : KeyEvent) :
    forwardKey e s = onVm (Vm.keyboard (s.input.keyboard e).2)
      { s with input := (s.input.keyboard e).1 } := by
  rw [forwardKey, Act.bind_of_silent (requireRunning_of_running h), Act.get_bind]
  rfl

theorem forwardKey_of_not_running (h : s.lifecycle ≠ .running) (e : KeyEvent) :
    forwardKey e s = ⟨.error .notRunning, s, []⟩ :=
  Act.bind_of_error (requireRunning_of_not_running h)

theorem wheel_of_running (h : s.lifecycle = .running) (delta : Binary64) :
    wheel delta s = onVm (Vm.wheel delta) s :=
  Act.bind_of_silent (requireRunning_of_running h)

theorem wheel_of_not_running (h : s.lifecycle ≠ .running) (delta : Binary64) :
    wheel delta s = ⟨.error .notRunning, s, []⟩ :=
  Act.bind_of_error (requireRunning_of_not_running h)

theorem save_of_running (h : s.lifecycle = .running) :
    save s = (onVm Snapshot.take >>= fun snapshot => do
      Act.note (.stateSaved snapshot.size)
      Act.modify fun s => { s with snapshot := some snapshot }) s :=
  Act.bind_of_silent (requireRunning_of_running h)

theorem save_of_not_running (h : s.lifecycle ≠ .running) :
    save s = ⟨.error .notRunning, s, []⟩ :=
  Act.bind_of_error (requireRunning_of_not_running h)

theorem restore_of_none (h : s.lifecycle = .running) (hs : s.snapshot = none) :
    restore s = ⟨.ok (), s, [.note .nothingToRestore]⟩ := by
  rw [restore, Act.bind_of_silent (requireRunning_of_running h), Act.get_bind, hs]
  rfl

theorem restore_of_some {snapshot : Snapshot} (h : s.lifecycle = .running)
    (hs : s.snapshot = some snapshot) :
    restore s = (onVm snapshot.restore >>= fun _ =>
      Act.note (.stateRestored snapshot.size)) s := by
  rw [restore, Act.bind_of_silent (requireRunning_of_running h), Act.get_bind, hs]

theorem restore_of_not_running (h : s.lifecycle ≠ .running) :
    restore s = ⟨.error .notRunning, s, []⟩ :=
  Act.bind_of_error (requireRunning_of_not_running h)

/-- The session after a gesture, and what it notes of the device's answer. -/
def woken (s : Session) : Session :=
  { s with audio := s.audio.gesture.1 }

def wakeNotes (s : Session) : List Output :=
  (s.audio.gesture.2.map fun a => .note (.ofAnswer a)).toList

theorem gesture_eq {ε : Type} (s : Session) :
    (gesture : Act ε Session Unit) s = ⟨.ok (), s.woken, s.wakeNotes⟩ := rfl

theorem exists_note_of_mem_wakeNotes {o : Output} (h : o ∈ s.wakeNotes) :
    ∃ a, o = .note (.ofAnswer a) := by
  obtain ⟨a, -, ha⟩ := Option.map_eq_some_iff.mp (Option.mem_toList.mp h)
  exact ⟨a, ha.symm⟩

theorem fromHost_wakeNotes (s : Session) : ∀ o ∈ s.wakeNotes, o.fromHost = true := by
  intro o ho
  obtain ⟨a, rfl⟩ := exists_note_of_mem_wakeNotes ho
  rfl

theorem pointer_of_down {e : PointerEvent} (h : e.kind = .down) (b : Bounds) (s : Session) :
    pointer e b s = (gesture >>= fun _ => requireRunning >>= fun _ => Act.get >>= fun s =>
      onVm (Vm.pointer (s.input.pointer e b))) s := by
  simp only [pointer, h, if_true]

theorem pointer_of_not_down {e : PointerEvent} (h : e.kind ≠ .down) (b : Bounds) (s : Session) :
    pointer e b s = (requireRunning >>= fun _ => Act.get >>= fun s =>
      onVm (Vm.pointer (s.input.pointer e b))) s := by
  simp only [pointer, h, if_false]

theorem obey_eq (k : Hotkey) : obey k = (Act.note (.hotkey k) >>= fun _ => perform k.event) := by
  cases k <;> rfl

theorem keyboard_of_down {e : KeyEvent} (h : e.state = .down) (s : Session) :
    keyboard e s = (gesture >>= fun _ => match s.config.hotkeys.find? e.code with
      | some k => obey k
      | none => forwardKey e) s := by
  simp only [keyboard, h, if_true]
  rw [Act.bind_of_ok (gesture_eq s), Act.bind_of_ok (gesture_eq s), Act.get_bind]
  simp only [woken]
  cases s.config.hotkeys.find? e.code with
  | none => rfl
  | some k => rfl

theorem keyboard_of_up {e : KeyEvent} (h : e.state = .up) (s : Session) :
    keyboard e s = (match s.config.hotkeys.find? e.code with
      | some _ => pure ()
      | none => forwardKey e : Act Error Session Unit) s := by
  simp only [keyboard, h, if_false, reduceCtorEq]
  rw [Act.get_bind]
  cases s.config.hotkeys.find? e.code with
  | none => rfl
  | some k => rfl

/-- No place for the samples is too high to count their end. -/
theorem samples_lt_bound (s : Session) (ptr : UInt32) :
    ptr.toNat + s.chunkFrames * 2 * 4 < Word.bound := by
  have hptr := ptr.toNat_lt
  have hframes : s.chunkFrames < 2 ^ 32 := s.config.audio.chunkFrames.toNat_lt
  rw [Word.bound]
  omega

theorem pullChunk_of_running (h : s.lifecycle = .running) (chunk : Chunk) :
    pullChunk (s, chunk) = Act.on (fun p => (p.1.vm, p.2))
      (fun q p => ({ p.1 with vm := q.1 }, q.2)) (Vm.pullChunk s.chunkFrames) (s, chunk) := by
  rw [pullChunk, Act.get_bind]
  exact congrFun (if_pos h) (s, chunk)

theorem pullChunk_of_not_running (h : s.lifecycle ≠ .running) (chunk : Chunk) :
    pullChunk (s, chunk) = ⟨.ok (), (s, .silent s.chunkFrames), []⟩ := by
  rw [pullChunk, Act.get_bind, ← Chunk.silence_resize chunk]
  exact congrFun (if_neg h) (s, chunk)

theorem pullChunk_eq {chunk c : Chunk} {r : Except Error Unit} {vm : Vm}
    (h : s.lifecycle = .running)
    (hp : Vm.pullChunk s.chunkFrames (s.vm, chunk) = ⟨r, (vm, c), t⟩) :
    pullChunk (s, chunk) = ⟨r, ({ s with vm }, c), t⟩ := by
  rw [pullChunk_of_running h]
  simp only [Act.on, hp]

theorem makes_pullChunk {chunk c : Chunk} {cs : List Call} {r : Except Error Unit} {vm : Vm}
    (h : s.lifecycle = .running)
    (hp : (Vm.pullChunk s.chunkFrames).Makes (s.vm, chunk) cs r (vm, c)) :
    pullChunk.Makes (s, chunk) cs r ({ s with vm }, c) := by
  obtain ⟨t, ht, hcs⟩ := hp
  exact ⟨t, pullChunk_eq h ht, hcs⟩

theorem makes_pull {chunk c : Chunk} {cs : List Call} {r : Except Error Unit} {s' : Session}
    (hp : pullChunk.Makes (s, chunk) cs r (s', c)) : (pull chunk).Makes s cs r s' := by
  obtain ⟨t, ht, hcs⟩ := hp
  exact ⟨t, by simp only [pull, ht], hcs⟩

section AnswerPull

variable {chunk c : Chunk} (live : Bool)

theorem answerPull_of_ok (h : pullChunk (s, chunk) = ⟨.ok (), (s', c), t⟩) :
    answerPull chunk live s =
      ⟨.ok (), s', t ++ [if live then .reply c else .note .replyDropped]⟩ := by
  simp only [answerPull, h]

theorem answerPull_of_error {e : Error} (h : pullChunk (s, chunk) = ⟨.error e, (s', c), t⟩) :
    answerPull chunk live s = ⟨.error e, s', t⟩ := by
  simp only [answerPull, h, List.append_nil]

end AnswerPull

/-- The session on which handling an event saves, if it does. -/
def savesOn (s : Session) : Event → Option Session
  | .save => some s
  | .key e =>
    if e.state = .down ∧ s.config.hotkeys.find? e.code = some .save then some s.woken else none
  | _ => none

theorem perform_of_savesOn {e : Event} {s₀ : Session} (h : s.savesOn e = some s₀) :
    s₀.snapshot = s.snapshot ∧ (perform e s).state = (save s₀).state := by
  cases e with
  | save =>
    cases h
    exact ⟨rfl, rfl⟩
  | key e =>
    obtain ⟨⟨hd, hk⟩, hw⟩ := Option.ite_none_right_eq_some.mp h
    cases hw
    rw [perform, keyboard_of_down hd, Act.bind_of_ok (gesture_eq s), hk]
    exact ⟨rfl, rfl⟩
  | _ => cases h

end Session

def Operation.savesOn (s : Session) : Operation → Option Session
  | .save => some s
  | .key e => s.savesOn (.key e)
  | .dispatch e => s.savesOn e
  | _ => none

theorem Operation.act_of_savesOn {s s₀ : Session} {op : Operation} (h : op.savesOn s = some s₀) :
    s₀.snapshot = s.snapshot ∧ (op.act s).state = (Session.save s₀).state := by
  cases op with
  | save => exact Session.perform_of_savesOn (e := .save) h
  | key e => exact Session.perform_of_savesOn (e := .key e) h
  | dispatch e =>
    rw [Session.act_dispatch, (Session.dispatch_same e s).1]
    exact Session.perform_of_savesOn h
  | _ => cases h

end GuestHost
