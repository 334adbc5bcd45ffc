import GuestHost.Proofs.Memory
import GuestHost.Proofs.Vm

/-! The state that a guest declares, asked for anew each time, and what taking and restoring a
snapshot do with it. -/
namespace GuestHost

variable {vm : Vm} {ptr size : UInt32} {m : Machine}

/-- Both accessors exist and return; they leave the machine `m`. -/
def Vm.Declares (vm : Vm) (ptr size : UInt32) (m : Machine) : Prop :=
  ∃ askPtr askSize m₁ t₁ t₂, vm.entry.statePtr = some askPtr ∧ vm.entry.stateSize = some askSize ∧
    askPtr.run vm.machine = ⟨.ok ptr, m₁, t₁⟩ ∧ askSize.run m₁ = ⟨.ok size, m, t₂⟩

namespace Vm

theorem declaredState_of_declares (hf : vm.faulted = false) (h : vm.Declares ptr size m) :
    ∃ t, declaredState vm = ⟨.ok (some (ptr, size)), { vm with machine := m }, t⟩ := by
  obtain ⟨askPtr, askSize, m₁, t₁, t₂, hp, hs, hrp, hrs⟩ := h
  have hptr : callIf (vm.entry.statePtr.map (Call.statePtr, ·)) vm =
      ⟨.ok (some ptr), { vm with machine := m₁ }, .call .statePtr :: t₁⟩ := by
    rw [hp]
    exact callIf_of_ok hf hrp
  have hsize : callIf (vm.entry.stateSize.map (Call.stateSize, ·)) { vm with machine := m₁ } =
      ⟨.ok (some size), { vm with machine := m }, .call .stateSize :: t₂⟩ := by
    rw [hs]
    exact callIf_of_ok hf hrs
  rw [declaredState, Act.get_bind]
  exact Act.bind_reaches hptr (Act.bind_reaches hsize ⟨_, rfl⟩)

theorem declares_of_declaredState (h : (declaredState vm).result = .ok (some (ptr, size))) :
    vm.faulted = false ∧ ∃ m, vm.Declares ptr size m ∧
      (declaredState vm).state = { vm with machine := m } := by
  rw [declaredState, Act.get_bind] at h ⊢
  obtain ⟨askedPtr, vm₁, t₁, hptr, h, hstate⟩ := Act.ok_of_bind h
  rw [hstate]
  obtain ⟨askedSize, vm₂, t₂, hsize, h, hstate⟩ := Act.ok_of_bind h
  rw [hstate]
  cases askedPtr with
  | none => cases h
  | some p =>
    cases askedSize with
    | none => cases h
    | some q =>
      cases h
      obtain ⟨hf, c, askPtr, m₁, t₁', hfp, hrp, rfl⟩ := ran_of_callIf hptr
      obtain ⟨-, c', askSize, m₂, t₂', hfs, hrs, rfl⟩ := ran_of_callIf hsize
      obtain ⟨_, hp, hpc⟩ := Option.map_eq_some_iff.mp hfp
      obtain ⟨_, hs, hsc⟩ := Option.map_eq_some_iff.mp hfs
      cases hpc
      cases hsc
      exact ⟨hf, m₂, ⟨askPtr, askSize, m₁, t₁', t₂', hp, hs, hrp, hrs⟩, rfl⟩

theorem undeclared_of_declaredState (h : (declaredState vm).result = .ok none) :
    vm.entry.statePtr = none ∨ vm.entry.stateSize = none := by
  rw [declaredState, Act.get_bind] at h
  obtain ⟨askedPtr, vm₁, t₁, hptr, h, -⟩ := Act.ok_of_bind h
  obtain ⟨askedSize, vm₂, t₂, hsize, h, -⟩ := Act.ok_of_bind h
  cases askedPtr with
  | none => exact .inl (Option.map_eq_none_iff.mp (none_of_callIf hptr))
  | some ptr =>
    cases askedSize with
    | none => exact .inr (Option.map_eq_none_iff.mp (none_of_callIf hsize))
    | some size => cases h

end Vm

namespace Snapshot

theorem region_of_declares (hf : vm.faulted = false) (h : vm.Declares ptr size m) :
    ∃ t, region vm = ⟨.ok (ptr, size), { vm with machine := m }, t⟩ := by
  obtain ⟨t, ht⟩ := Vm.declaredState_of_declares hf h
  exact Act.bind_reaches ht ⟨_, rfl⟩

theorem declares_of_region (h : (region vm).result = .ok (ptr, size)) :
    vm.faulted = false ∧ ∃ m, vm.Declares ptr size m ∧
      (region vm).state = { vm with machine := m } := by
  rw [region] at h ⊢
  obtain ⟨found, vm', t, hd, h, hstate⟩ := Act.ok_of_bind h
  rw [hstate]
  cases found with
  | none => cases h
  | some r =>
    cases h
    obtain ⟨hf, m, hm, hs⟩ := Vm.declares_of_declaredState (congrArg Outcome.result hd)
    rw [hd] at hs
    exact ⟨hf, m, hm, hs⟩

/-- Both ends of a declared region are 32-bit words, whose sum 64 bits always hold. -/
theorem region_lt_bound (ptr size : UInt32) : ptr.toNat + size.toNat < Word.bound := by
  have hp := ptr.toNat_lt
  have hs := size.toNat_lt
  rw [Word.bound]
  omega

theorem take_of_le (hf : vm.faulted = false) (h : vm.Declares ptr size m)
    (hfits : ptr.toNat + size.toNat ≤ m.memory.size) :
    ∃ t, take vm = ⟨.ok ⟨m.memory.bytes.extract ptr.toNat (ptr.toNat + size.toNat)⟩,
      { vm with machine := m }, t⟩ := by
  obtain ⟨t, ht⟩ := region_of_declares hf h
  have hread : Vm.read ptr size.toNat { vm with machine := m } =
      ⟨.ok (m.memory.bytes.extract ptr.toNat (ptr.toNat + size.toNat)),
        { vm with machine := m }, []⟩ := by
    rw [Vm.read]
    exact congrArg (Outcome.mk · _ _) (Memory.read_of_le hfits (region_lt_bound ptr size))
  exact Act.bind_reaches ht (Act.bind_reaches hread ⟨_, rfl⟩)

theorem take_of_lt (hf : vm.faulted = false) (h : vm.Declares ptr size m)
    (hover : m.memory.size < ptr.toNat + size.toNat) :
    ∃ t, take vm = ⟨.error (.outOfRange ptr.toNat size.toNat m.memory.size),
      { vm with machine := m }, t⟩ := by
  obtain ⟨t, ht⟩ := region_of_declares hf h
  have hread : Vm.read ptr size.toNat { vm with machine := m } =
      ⟨.error (.outOfRange ptr.toNat size.toNat m.memory.size), { vm with machine := m }, []⟩ := by
    rw [Vm.read]
    exact congrArg (Outcome.mk · _ _) (Memory.read_of_lt hover)
  exact Act.bind_reaches ht ⟨_, Act.bind_of_error hread⟩

/-- What was taken is the region that the guest declared meanwhile. -/
theorem declares_of_take {snapshot : Snapshot} (h : (take vm).result = .ok snapshot) :
    vm.faulted = false ∧ ∃ ptr size m, vm.Declares ptr size m ∧
      ptr.toNat + size.toNat ≤ m.memory.size ∧
      snapshot.bytes = m.memory.bytes.extract ptr.toNat (ptr.toNat + size.toNat) ∧
      (take vm).state = { vm with machine := m } := by
  obtain ⟨⟨ptr, size⟩, vm', t, hr, -, -⟩ := Act.ok_of_bind h
  obtain ⟨hf, m, hm, -⟩ := declares_of_region (congrArg Outcome.result hr)
  refine ⟨hf, ptr, size, m, hm, ?_⟩
  by_cases hfits : ptr.toNat + size.toNat ≤ m.memory.size
  · obtain ⟨t, ht⟩ := take_of_le hf hm hfits
    rw [ht] at h ⊢
    cases h
    exact ⟨hfits, rfl, rfl⟩
  · obtain ⟨t, ht⟩ := take_of_lt hf hm (Nat.lt_of_not_le hfits)
    rw [ht] at h
    cases h

variable {snapshot : Snapshot}

/-- A note that the sizes differ changes nothing but the trace. -/
theorem restore_reaches {r : Except Error Unit} {vm' : Vm} (hf : vm.faulted = false)
    (h : vm.Declares ptr size m)
    (hw : ∃ t, (Vm.write ptr snapshot.bytes >>= fun _ =>
      Act.note (.regionRestored snapshot.size ptr)) { vm with machine := m } = ⟨r, vm', t⟩) :
    ∃ t, snapshot.restore vm = ⟨r, vm', t⟩ := by
  obtain ⟨t, ht⟩ := region_of_declares hf h
  refine Act.bind_reaches ht ?_
  dsimp only
  by_cases hs : snapshot.size ≠ size.toNat
  · rw [if_pos hs]
    exact Act.bind_reaches rfl hw
  · rw [if_neg hs]
    exact hw

theorem restore_of_le (hf : vm.faulted = false) (h : vm.Declares ptr size m)
    (hfits : ptr.toNat + snapshot.size ≤ m.memory.size)
    (hb : ptr.toNat + snapshot.size < Word.bound) :
    ∃ t, snapshot.restore vm = ⟨.ok (), { vm with machine := { m with memory := { m.memory with
      bytes := Bytes.overwrite m.memory.bytes ptr.toNat snapshot.bytes } } }, t⟩ := by
  refine restore_reaches hf h (Act.bind_reaches (Vm.write_of_ok ?_) ⟨_, rfl⟩)
  exact Memory.write_of_le hfits hb

theorem restore_of_lt (hf : vm.faulted = false) (h : vm.Declares ptr size m)
    (hover : m.memory.size < ptr.toNat + snapshot.size) :
    ∃ t, snapshot.restore vm = ⟨.error (.outOfRange ptr.toNat snapshot.size m.memory.size),
      { vm with machine := m }, t⟩ := by
  refine restore_reaches hf h ⟨_, Act.bind_of_error (Vm.write_of_error ?_)⟩
  exact Memory.write_of_lt hover

end Snapshot

end GuestHost
