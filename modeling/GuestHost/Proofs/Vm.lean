import GuestHost.Audio.Stream
import GuestHost.Proofs.Audio.Chunk
import GuestHost.Proofs.Guest.Visit
import GuestHost.Snapshot

/-! Calls behind the gate: what a shut gate refuses, what a call leaves behind, and what no use of
a guest can change. -/
namespace GuestHost

namespace Vm

variable {α : Type} {vm : Vm} {c : Call} {routine : Routine α} {m : Machine} {t : List Output}

theorem invoke_of_ok {a : α} (h : routine.run vm.machine = ⟨.ok a, m, t⟩) :
    invoke c routine vm = ⟨.ok a, { vm with machine := m }, .call c :: t⟩ := by
  simp only [invoke, h]

theorem invoke_of_error {stop : Stop} (h : routine.run vm.machine = ⟨.error stop, m, t⟩) :
    invoke c routine vm = ⟨.error (stop.error c.entry), { vm with machine := m, faulted := true },
      .call c :: t ++ [.note (.guestFaulted (stop.error c.entry))]⟩ := by
  simp only [invoke, h]

theorem gate_of_faulted (h : vm.faulted = true) : gate vm = ⟨.error .faulted, vm, []⟩ := by
  simp only [gate, h, if_true]

theorem gate_of_not_faulted (h : vm.faulted = false) : gate vm = ⟨.ok (), vm, []⟩ := by
  simp only [gate, h, Bool.false_eq_true, if_false]

theorem call_of_faulted (h : vm.faulted = true) : call c routine vm = ⟨.error .faulted, vm, []⟩ :=
  Act.bind_of_error (gate_of_faulted h)

theorem call_of_not_faulted (h : vm.faulted = false) : call c routine vm = invoke c routine vm :=
  Act.bind_of_silent (gate_of_not_faulted h)

theorem callIf_of_faulted {found : Option (Call × Routine α)} (h : vm.faulted = true) :
    callIf found vm = ⟨.error .faulted, vm, []⟩ :=
  Act.bind_of_error (gate_of_faulted h)

theorem callIf_none (h : vm.faulted = false) :
    callIf (none : Option (Call × Routine α)) vm = ⟨.ok none, vm, []⟩ :=
  Act.bind_of_silent (gate_of_not_faulted h)

theorem callIf_some (h : vm.faulted = false) :
    callIf (some (c, routine)) vm = (some <$> invoke c routine) vm :=
  Act.bind_of_silent (gate_of_not_faulted h)

theorem callIf_of_ok {a : α} (hf : vm.faulted = false)
    (h : routine.run vm.machine = ⟨.ok a, m, t⟩) :
    callIf (some (c, routine)) vm = ⟨.ok (some a), { vm with machine := m }, .call c :: t⟩ := by
  rw [callIf_some hf, Act.map_apply, invoke_of_ok h]
  rfl

theorem callIf_of_error {stop : Stop} (hf : vm.faulted = false)
    (h : routine.run vm.machine = ⟨.error stop, m, t⟩) :
    callIf (some (c, routine)) vm = ⟨.error (stop.error c.entry),
      { vm with machine := m, faulted := true },
      .call c :: t ++ [.note (.guestFaulted (stop.error c.entry))]⟩ := by
  rw [callIf_some hf, Act.map_apply, invoke_of_error h]
  rfl

/-- An answer through the gate means that the routine behind it ran to its end. -/
theorem ran_of_call {a : α} {vm' : Vm} (h : call c routine vm = ⟨.ok a, vm', t⟩) :
    vm.faulted = false ∧ ∃ m t', routine.run vm.machine = ⟨.ok a, m, t'⟩ ∧
      vm' = { vm with machine := m } := by
  by_cases hf : vm.faulted = true
  · rw [call_of_faulted hf] at h
    cases h
  · have hopen := Bool.eq_false_iff.mpr hf
    rw [call_of_not_faulted hopen] at h
    rcases hrun : routine.run vm.machine with ⟨stop | a', m, t'⟩
    · rw [invoke_of_error hrun] at h
      cases h
    · rw [invoke_of_ok hrun] at h
      cases h
      exact ⟨hopen, m, t', rfl, rfl⟩

theorem ran_of_callIf {found : Option (Call × Routine α)} {a : α} {vm' : Vm}
    (h : callIf found vm = ⟨.ok (some a), vm', t⟩) :
    vm.faulted = false ∧ ∃ c routine m t', found = some (c, routine) ∧
      routine.run vm.machine = ⟨.ok a, m, t'⟩ ∧ vm' = { vm with machine := m } := by
  by_cases hf : vm.faulted = true
  · rw [callIf_of_faulted hf] at h
    cases h
  · have hopen := Bool.eq_false_iff.mpr hf
    refine ⟨hopen, ?_⟩
    cases found with
    | none =>
      rw [callIf_none hopen] at h
      cases h
    | some p =>
      obtain ⟨c, routine⟩ := p
      rcases hrun : routine.run vm.machine with ⟨stop | a', m, t'⟩
      · rw [callIf_of_error hopen hrun] at h
        cases h
      · rw [callIf_of_ok hopen hrun] at h
        cases h
        exact ⟨c, routine, m, t', rfl, hrun, rfl⟩

/-- Only where there is nothing to call does the gate let pass and nothing come back. -/
theorem none_of_callIf {found : Option (Call × Routine α)} {vm' : Vm}
    (h : callIf found vm = ⟨.ok none, vm', t⟩) : found = none := by
  by_cases hf : vm.faulted = true
  · rw [callIf_of_faulted hf] at h
    cases h
  · cases found with
    | none => rfl
    | some p =>
      have hopen := Bool.eq_false_iff.mpr hf
      rcases hrun : p.2.run vm.machine with ⟨stop | a, m, t'⟩
      · rw [callIf_of_error hopen hrun] at h
        cases h
      · rw [callIf_of_ok hopen hrun] at h
        cases h

theorem write_of_ok {addr : UInt32} {bytes : ByteArray} {memory : Memory}
    (h : vm.memory.write addr bytes = .ok memory) :
    write addr bytes vm = ⟨.ok (), vm.withMemory memory, []⟩ := by
  simp only [write, h]

theorem write_of_error {addr : UInt32} {bytes : ByteArray} {e : Error}
    (h : vm.memory.write addr bytes = .error e) : write addr bytes vm = ⟨.error e, vm, []⟩ := by
  simp only [write, h]

/-- Where no line is open there is nothing to flush. -/
theorem flushConsole_of_isEmpty (h : vm.machine.console.pending.isEmpty = true) :
    flushConsole vm = ⟨.ok (), vm, []⟩ := by
  have hflush : vm.machine.console.flush = (vm.machine.console, []) := if_pos h
  simp only [flushConsole, Act.on, Machine.flushConsole, hflush]
  rfl

section PullChunk

variable {vm' : Vm} (frames : Nat) (chunk : Chunk)

/-- The chunk is not touched while the guest is dealt with. -/
theorem on_withChunk {x : Act Error Vm α} {r : Except Error α} (h : x vm = ⟨r, vm', t⟩) :
    Act.on Prod.fst (fun vm (p : Vm × Chunk) => (vm, p.2)) x (vm, chunk) = ⟨r, (vm', chunk), t⟩ := by
  simp only [Act.on, h]

theorem pullChunk_of_silent (h : samplesAddress vm = ⟨.ok none, vm', t⟩) :
    pullChunk frames (vm, chunk) = ⟨.ok (), (vm', .silent frames), t⟩ := by
  have hask := on_withChunk (chunk.resize frames) h
  rw [pullChunk, Act.modify_bind, Act.bind_of_ok hask, ← Chunk.silence_resize chunk]
  simp only [Act.modify, List.append_nil]

theorem pullChunk_of_error {e : Error} (h : samplesAddress vm = ⟨.error e, vm', t⟩) :
    pullChunk frames (vm, chunk) = ⟨.error e, (vm', chunk.resize frames), t⟩ := by
  rw [pullChunk, Act.modify_bind]
  exact Act.bind_of_error (on_withChunk (chunk.resize frames) h)

variable {ptr : UInt32} (h : samplesAddress vm = ⟨.ok (some ptr), vm', t⟩)
include h

theorem pullChunk_of_le (hfits : ptr.toNat + frames * 2 * 4 ≤ vm'.memory.size)
    (hb : ptr.toNat + frames * 2 * 4 < Word.bound) :
    pullChunk frames (vm, chunk) =
      ⟨.ok (), (vm', .planarAt vm'.memory.bytes ptr.toNat frames), t⟩ := by
  have hask := on_withChunk (chunk.resize frames) h
  have hread : read ptr (frames * 2 * 4) vm' = ⟨.ok _, vm', []⟩ :=
    congrArg (Outcome.mk · _ _) (Memory.read_of_le hfits hb)
  have hrest := on_withChunk (chunk.resize frames) hread
  rw [pullChunk, Act.modify_bind, Act.bind_of_ok hask, ← Chunk.decodePlanar_resize chunk hfits]
  dsimp only
  rw [Act.bind_of_silent hrest]
  simp only [Act.modify, List.append_nil]

theorem pullChunk_of_lt (hover : vm'.memory.size < ptr.toNat + frames * 2 * 4) :
    pullChunk frames (vm, chunk) =
      ⟨.error (.outOfRange ptr.toNat (frames * 2 * 4) vm'.memory.size),
        (vm', chunk.resize frames), t⟩ := by
  have hask := on_withChunk (chunk.resize frames) h
  have hread : read ptr (frames * 2 * 4) vm' =
      ⟨.error (.outOfRange ptr.toNat (frames * 2 * 4) vm'.memory.size), vm', []⟩ :=
    congrArg (Outcome.mk · _ _) (Memory.read_of_lt hover)
  have hrest := on_withChunk (chunk.resize frames) hread
  rw [pullChunk, Act.modify_bind, Act.bind_of_ok hask]
  dsimp only
  rw [Act.bind_of_error hrest, List.append_nil]

end PullChunk

/-! A shut gate refuses every entry point before anything is done. -/

section Faulted

variable (h : vm.faulted = true)
include h

theorem init_of_faulted : init vm = ⟨.error .faulted, vm, []⟩ :=
  call_of_faulted h

theorem update_of_faulted : update vm = ⟨.error .faulted, vm, []⟩ :=
  call_of_faulted h

theorem pointer_of_faulted (i : PointerInput) : pointer i vm = ⟨.error .faulted, vm, []⟩ := by
  rw [pointer, Act.get_bind]
  exact Act.bind_of_error (callIf_of_faulted h)

theorem wheel_of_faulted (delta : Binary64) : wheel delta vm = ⟨.error .faulted, vm, []⟩ := by
  rw [wheel, Act.get_bind]
  exact Act.bind_of_error (callIf_of_faulted h)

theorem keyboard_of_faulted (i : KeyboardInput) : keyboard i vm = ⟨.error .faulted, vm, []⟩ := by
  rw [keyboard, Act.get_bind]
  exact Act.bind_of_error (callIf_of_faulted h)

theorem declaredState_of_faulted : declaredState vm = ⟨.error .faulted, vm, []⟩ := by
  rw [declaredState, Act.get_bind]
  exact Act.bind_of_error (callIf_of_faulted h)

theorem samplesAddress_of_faulted : samplesAddress vm = ⟨.error .faulted, vm, []⟩ :=
  callIf_of_faulted h

end Faulted

/-- A stretch of dealings with a guest that makes no calls but those in `P`. -/
structure Within (P : Call → Prop) (vm : Vm) (t : List Output) (vm' : Vm) : Prop where
  entry : vm'.entry = vm.entry
  exported : vm'.machine.exported = vm.machine.exported
  display : vm'.machine.compositor.display = vm.machine.compositor.display
  clock : vm'.machine.clock = vm.machine.clock
  faulted : vm.faulted = true → vm'.faulted = true
  calls : ∀ {c}, .call c ∈ t → P c
  booting : .note .booting ∉ t

namespace Within

variable {P : Call → Prop}

theorem law : Act.Law (Within P) where
  refl _ := ⟨rfl, rfl, rfl, rfl, id, by simp, by simp⟩
  trans h h' := {
    entry := h'.entry.trans h.entry
    exported := h'.exported.trans h.exported
    display := h'.display.trans h.display
    clock := h'.clock.trans h.clock
    faulted := fun hf => h'.faulted (h.faulted hf)
    calls := fun hc => (List.mem_append.mp hc).elim h.calls h'.calls
    booting := fun hn => (List.mem_append.mp hn).elim h.booting h'.booting }

theorem note (vm : Vm) {n : Notice} (hn : n ≠ .booting) : Within P vm [.note n] vm :=
  ⟨rfl, rfl, rfl, rfl, id, by simp, by simpa using hn.symm⟩

theorem withMemory (vm : Vm) (memory : Memory) : Within P vm [] (vm.withMemory memory) :=
  ⟨rfl, rfl, rfl, rfl, id, by simp, by simp⟩

/-- What the guest's own code shows holds neither calls nor notes. -/
theorem ofHeld {m : Machine} (h : Machine.Held vm.machine t m) :
    Within P vm t { vm with machine := m } where
  entry := rfl
  exported := h.exported
  display := h.display
  clock := h.clock
  faulted := id
  calls hc := by cases h.shown _ hc
  booting hn := by cases h.shown _ hn

theorem invoke (hc : P c) (routine : Routine α) : Act.Keeps (Within P) (invoke c routine) := by
  intro vm
  have hcall : Within P vm [.call c] vm :=
    ⟨rfl, rfl, rfl, rfl, id, by simp [hc], by simp⟩
  rcases hrun : routine.run vm.machine with ⟨stop | a, m, t⟩ <;> have hm := Routine.held_of_run hrun
  · rw [invoke_of_error hrun]
    have hshut : Within P { vm with machine := m } [.note (.guestFaulted (stop.error c.entry))]
        { vm with machine := m, faulted := true } :=
      ⟨rfl, rfl, rfl, rfl, fun _ => rfl, by simp, by simp⟩
    exact law.trans (law.trans hcall (ofHeld hm)) hshut
  · rw [invoke_of_ok hrun]
    simpa only [List.singleton_append] using law.trans hcall (ofHeld hm)

theorem gate : Act.Keeps (Within P) gate :=
  law.refl

theorem call (hc : P c) (routine : Routine α) : Act.Keeps (Within P) (call c routine) :=
  .bind law gate fun _ => invoke hc routine

theorem callIf {found : Option (Call × Routine α)} (hc : ∀ p ∈ found, P p.1) :
    Act.Keeps (Within P) (callIf found) := by
  refine .bind law gate fun _ => ?_
  cases found with
  | none => exact .pure law none
  | some p => exact .map law some (invoke (hc p rfl) p.2)

theorem init (hc : P .init) : Act.Keeps (Within P) init :=
  .bind law (.get law) fun vm => call hc vm.entry.init

theorem update (hc : P .update) : Act.Keeps (Within P) update :=
  .bind law (.get law) fun vm => call hc vm.entry.onUpdate

theorem romAddress (hc : P .romPtr) : Act.Keeps (Within P) romAddress :=
  .bind law (.get law) fun vm => call hc vm.entry.romPtr

theorem runMain (hc : P .runMain) : Act.Keeps (Within P) runMain := by
  refine .bind law (.get law) fun vm => .bind law (callIf ?_) fun done => .pure law _
  simpa using fun _ _ => hc

theorem pointer (i : PointerInput) (hc : P (.pointer i.x i.y i.buttons)) :
    Act.Keeps (Within P) (pointer i) := by
  refine .bind law (.get law) fun vm => .bind law (callIf ?_) fun _ => .pure law ()
  simpa using fun _ _ => hc

theorem wheel (delta : Binary64) (hf : P (.wheelFloat delta)) (hi : P (.wheelInt delta.toInt32)) :
    Act.Keeps (Within P) (wheel delta) := by
  refine .bind law (.get law) fun vm => .bind law (callIf ?_) fun _ => .pure law ()
  intro p hp
  obtain ⟨w, -, rfl⟩ := Option.map_eq_some_iff.mp hp
  cases w with
  | float run => exact hf
  | int run => exact hi

theorem keyboard (i : KeyboardInput) (hc : P (.keyboard i.mask i.charCode)) :
    Act.Keeps (Within P) (keyboard i) := by
  refine .bind law (.get law) fun vm => .bind law (callIf ?_) fun _ => .pure law ()
  simpa using fun _ _ => hc

theorem declaredState (hp : P .statePtr) (hs : P .stateSize) :
    Act.Keeps (Within P) declaredState := by
  refine .bind law (.get law) fun vm => .bind law (callIf ?_) fun ptr =>
    .bind law (callIf ?_) fun size => .pure law _
  · simpa using fun _ _ => hp
  · simpa using fun _ _ => hs

theorem samplesAddress (hc : P .audioSamples) : Act.Keeps (Within P) samplesAddress := by
  refine .bind law (.get law) fun vm => callIf ?_
  simpa using fun _ _ => hc

theorem read (addr : UInt32) (len : Nat) : Act.Keeps (Within P) (read addr len) :=
  law.refl

theorem write (addr : UInt32) (bytes : ByteArray) : Act.Keeps (Within P) (write addr bytes) := by
  intro vm
  unfold Vm.write
  cases vm.memory.write addr bytes with
  | error e => exact law.refl vm
  | ok memory => exact withMemory vm memory

theorem flushConsole : Act.Keeps (Within P) flushConsole :=
  fun vm => ofHeld (Machine.keeps_flushConsole vm.machine)

theorem pullChunk (frames : Nat) (hc : P .audioSamples) :
    Act.Keeps (fun p t p' => Within P p.1 t p'.1) (pullChunk frames) := by
  have hlaw := (law : Act.Law (Within P)).comap (Prod.fst : Vm × Chunk → Vm)
  refine .bind hlaw (fun p => hlaw.refl p) fun _ => ?_
  refine .bind hlaw (.on (samplesAddress hc) id) fun ptr => ?_
  cases ptr with
  | none => exact fun p => hlaw.refl p
  | some ptr => exact .bind hlaw (.on (read ptr _) id) fun bytes p => hlaw.refl p

theorem region (hp : P .statePtr) (hs : P .stateSize) : Act.Keeps (Within P) Snapshot.region := by
  refine .bind law (declaredState hp hs) fun found => ?_
  cases found with
  | none => exact .fail law _
  | some r => exact .pure law r

theorem take (hp : P .statePtr) (hs : P .stateSize) : Act.Keeps (Within P) Snapshot.take :=
  .bind law (region hp hs) fun r => .bind law (read r.1 _) fun _ =>
    .bind law (fun vm => note vm nofun) fun _ => .pure law _

theorem restore (snapshot : Snapshot) (hp : P .statePtr) (hs : P .stateSize) :
    Act.Keeps (Within P) snapshot.restore := by
  refine .bind law (region hp hs) fun r => ?_
  have hrest : Act.Keeps (Within P) (do
      Vm.write r.1 snapshot.bytes
      Act.note (.regionRestored snapshot.size r.1)) :=
    .bind law (write _ _) fun _ vm => note vm nofun
  exact .ite (.bind law (fun vm => note vm nofun) fun _ => hrest) hrest

end Within

end Vm

end GuestHost
