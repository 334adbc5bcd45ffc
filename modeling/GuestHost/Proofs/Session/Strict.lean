import GuestHost.Proofs.Session.Latch
import GuestHost.Proofs.Strict
import Mathlib.Tactic.SplitIfs

/-! Sessions on a host with partial operations. Whatever guests report and devices lend, loading an
image, taking and restoring snapshots and pulling audio end as if nothing could panic. -/
namespace GuestHost

namespace Strict

def readFrom (addr : UInt32) (len : Nat) : Act Alarm Vm ByteArray := do
  let vm ← Act.get
  Act.ofExcept (read vm.memory addr len)

def writeTo (addr : UInt32) (bytes : ByteArray) : Act Alarm Vm Unit := do
  let vm ← Act.get
  let memory ← Act.ofExcept (write vm.memory addr bytes)
  Act.modify fun vm => vm.withMemory memory

def take : Act Alarm Vm Snapshot := do
  let (ptr, size) ← Snapshot.region.alarmed
  let bytes ← readFrom ptr size.toNat
  Act.note (.regionSaved size ptr)
  return ⟨bytes⟩

def restore (s : Snapshot) : Act Alarm Vm Unit := do
  let (ptr, size) ← Snapshot.region.alarmed
  if s.size ≠ size.toNat then Act.note (.sizesDiffer s.size size)
  writeTo ptr s.bytes
  Act.note (.regionRestored s.size ptr)

/-- Each channel from a part of the bytes of its own. -/
def decodePlanar (c : Chunk) (bytes : ByteArray) : Except Alarm Chunk := do
  let half ← product 4 c.left.size
  let (left, right) ← splitAt bytes half
  return ⟨Chunk.decodeChannel left 0 c.left, Chunk.decodeChannel right 0 c.right⟩

def pullChunk (frames : Nat) : Act Alarm (Vm × Chunk) Unit := do
  Act.modify fun (vm, c) => (vm, c.resize frames)
  match ← Act.on Prod.fst (fun vm p => (vm, p.2)) Vm.samplesAddress.alarmed with
  | none => Act.modify fun (vm, c) => (vm, c.silence)
  | some ptr => do
    let samples ← Act.ofExcept (product frames 2)
    let length ← Act.ofExcept (product samples 4)
    let bytes ← Act.on Prod.fst (fun vm p => (vm, p.2)) (readFrom ptr length)
    let (_, c) ← Act.get
    let filled ← Act.ofExcept (decodePlanar c bytes)
    Act.modify fun (vm, _) => (vm, filled)

def bringUp : Act Alarm Session Unit := do
  Session.releaseInput.alarmed
  (Session.onVm Vm.init).alarmed
  let s ← Act.get
  if s.romLength < s.rom.size then
    Act.note (.romTruncated s.rom.size s.config.memory.romCapacity)
  let ptr ← (Session.onVm Vm.romAddress).alarmed
  let image ← Act.ofExcept (slice s.rom 0 s.romLength)
  Act.on Session.vm (fun vm s => { s with vm }) (writeTo ptr image)
  Act.note (.romLoaded s.romLength ptr)
  unless ← (Session.onVm Vm.runMain).alarmed do Act.note .noMain
  (Session.onVm Vm.flushConsole).alarmed

theorem readFrom_eq (addr : UInt32) (len : Nat) :
    readFrom addr len = (Vm.read addr len).alarmed := by
  funext vm
  rw [readFrom, Act.get_bind, read_eq, Act.alarmed, Vm.read]
  cases vm.memory.read addr len <;> rfl

theorem writeTo_eq (addr : UInt32) (bytes : ByteArray) :
    writeTo addr bytes = (Vm.write addr bytes).alarmed := by
  funext vm
  rw [writeTo, Act.get_bind, write_eq, Act.alarmed, Vm.write]
  cases vm.memory.write addr bytes <;> rfl

theorem take_eq : take = Snapshot.take.alarmed := by
  simp only [take, Snapshot.take, Act.alarmed_bind, readFrom_eq]
  rfl

theorem restore_eq (s : Snapshot) : restore s = s.restore.alarmed := by
  simp only [restore, Snapshot.restore, Act.alarmed_bind, Act.alarmed_ite, writeTo_eq]
  rfl

theorem bringUp_eq : bringUp = Session.bringUp.alarmed := by
  have himage : ∀ s : Session, slice s.rom 0 s.romLength = .ok (s.rom.extract 0 s.romLength) :=
    fun s => slice_of_le (Nat.zero_le _) (Nat.min_le_left _ _)
  simp only [bringUp, Session.bringUp, Session.onVm, Act.alarmed_bind, Act.alarmed_ite,
    Act.alarmed_get, Act.alarmed_note, Act.alarmed_on, himage, Act.ofExcept_ok_bind, writeTo_eq]

theorem decodePlanar_eq {c : Chunk} {bytes : ByteArray} (h : 4 * c.left.size ≤ bytes.size)
    (hb : 4 * c.left.size < Word.bound) : decodePlanar c bytes = .ok (c.decodePlanar bytes) := by
  have hleft := Chunk.decodeChannel_extract h (.inl (Nat.le_of_eq (Nat.zero_add _)))
    (Nat.zero_le _)
  have hright : Chunk.decodeChannel (bytes.extract (4 * c.left.size) bytes.size) 0 c.right = _ :=
    Chunk.decodeChannel_extract (Nat.le_refl _) (.inr rfl) h
  simp only [decodePlanar, product_of_lt hb, ok_bind, splitAt_of_le h, hleft, hright]
  rfl

/-- The chunk has its length from the first step on, and what is read is as long as two channels. -/
theorem pullChunk_eq {frames : Nat} (h : frames * 2 * 4 < Word.bound) :
    pullChunk frames = (Vm.pullChunk frames).alarmed := by
  have hsamples : frames * 2 < Word.bound := by omega
  simp only [pullChunk, Vm.pullChunk, Act.alarmed_bind, Act.alarmed_on, readFrom_eq,
    product_of_lt hsamples, product_of_lt h, Act.ofExcept_ok_bind]
  funext p
  obtain ⟨vm, c⟩ := p
  refine Act.bind_congr fun {_ p _} hresized => Act.bind_congr fun {found p' _} hasked => ?_
  have hframes : p'.2.left.size = frames := by
    have hkept : p.2 = p'.2 := congrArg (fun o => o.state.2) hasked
    rw [← hkept]
    cases hresized
    exact Chunk.size_resizeChannel c.left frames
  cases found with
  | none => rfl
  | some ptr =>
    simp only [Act.alarmed_bind, Act.alarmed_on]
    refine Act.bind_congr fun {bytes q _} hread => ?_
    have hkept : p' = q := congrArg Outcome.state hread
    have hbytes : bytes.size = frames * 2 * 4 :=
      Memory.size_of_read (ok_of_reported (congrArg Outcome.result hread))
    subst hkept
    rw [Act.get_bind, decodePlanar_eq (by omega) (by omega)]
    rfl

theorem product_of_mul? {a b n : Nat} (h : Word.mul? a b = some n) : product a b = .ok n := by
  rw [product, h, Option.elim_some]

/-- A display without a defect has few enough pixels for the bytes of a layer to be counted. -/
theorem layerLength_eq {config : Config} (h : config.defect? = none) :
    layerLength config.display = .ok config.display.layerLength ∧
      config.display.layerLength ≤ Config.maxLayerLength := by
  have hfits := Config.fits_of_defect? h
  unfold Config.Display.fits at hfits
  cases hl : config.display.layerLength? with
  | none =>
    rw [hl] at hfits
    cases hfits
  | some n =>
    rw [hl] at hfits
    have hlength : config.display.layerLength = n := by
      rw [Config.Display.layerLength, hl, Option.getD_some]
    obtain ⟨pixels, hp, hn⟩ := Option.bind_eq_some_iff.mp hl
    rw [layerLength, product_of_mul? hp, ok_bind, product_of_mul? hn, hlength]
    exact ⟨rfl, of_decide_eq_true hfits⟩

end Strict

namespace Session

variable {s : Session}

/-- No partial operation of the host can fail: not in the products of the settings, not where it
loads an image, takes or restores a snapshot or pulls audio, and not in any call that guest code
makes to it. What does not fit is reported. -/
structure PanicFree (s : Session) : Prop where
  layer : Strict.layerLength s.config.display = .ok s.config.display.layerLength
  start : ∀ guest memory clock, ∀ code : Code Unit,
    code.Safe .guest (Machine.ofModule guest memory s.config.display clock)
  bringUp : Strict.bringUp = bringUp.alarmed
  take : Strict.take = Snapshot.take.alarmed
  restore : ∀ snapshot : Snapshot, Strict.restore snapshot = snapshot.restore.alarmed
  pull : Strict.pullChunk s.chunkFrames = (Vm.pullChunk s.chunkFrames).alarmed
  poke : ∀ addr bytes, Strict.writeTo addr bytes = (Vm.write addr bytes).alarmed
  ranges : s.RefusesRanges
  courses : ∀ op, ∃ vs r, Undergoes s op vs r
  visits : ∀ op vs r, Undergoes s op vs r → ∀ v ∈ vs,
    v.routine.code.Safe v.routine.caller v.machine

theorem Reachable.made (hs : s.Reachable) :
    s.config.defect? = none ∧ s.rom.size ≠ 0 ∧ s.vm.machine.Whole := by
  obtain ⟨s₀, ops, hc, rfl⟩ := hs
  have hsame := sameSetup_performAll ops s₀
  obtain ⟨guest, memory, clock, code, hmachine⟩ := hc.made.machine
  have hwhole : s₀.vm.machine.Whole := by
    rw [hmachine]
    exact Code.keeps_run Machine.whole_kept code _ (Compositor.whole_blank _)
  rw [hsame.config, hsame.rom]
  refine ⟨hc.made.config, hc.made.rom, ?_⟩
  exact vm_performAll (P := fun vm => vm.machine.Whole)
    (fun hcourse hm => (hcourse.keeps Machine.stable_whole hm).1) ops hwhole

theorem panicFree (hs : s.Reachable) : s.PanicFree where
  layer := (Strict.layerLength_eq hs.made.1).1
  start _ _ _ _ := Code.safe (Compositor.whole_blank _)
  bringUp := Strict.bringUp_eq
  take := Strict.take_eq
  restore := Strict.restore_eq
  pull := by
    refine Strict.pullChunk_eq ?_
    have hframes := s.config.audio.chunkFrames.toNat_lt
    rw [chunkFrames, Word.bound]
    omega
  poke := Strict.writeTo_eq
  ranges := refusesRanges s
  courses := exists_undergoes s
  visits _ _ _ h v hv :=
    Code.safe ((h.course.keeps Machine.stable_whole hs.made.2.2).2 v hv)

/-- A guest that has failed and has no memory to lend is no danger to its host either. -/
theorem panicFree_homeless :
    (performAll [.boot, .pull {}] homeless).state.PanicFree ∧
      (Strict.bringUp homeless).result ≠ .error .panic := by
  have h := panicFree ⟨homeless, [.boot, .pull {}], homeless_created, rfl⟩
  refine ⟨h, ?_⟩
  rw [h.bringUp]
  exact Act.result_alarmed_ne_panic bringUp homeless

end Session

end GuestHost
