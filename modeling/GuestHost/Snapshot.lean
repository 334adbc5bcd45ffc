import GuestHost.Vm

/-! Copies of the state that a guest declares, taken and written back. -/
namespace GuestHost

/-- The bytes alone; where they go is asked of the guest each time. -/
structure Snapshot where
  bytes : ByteArray
  deriving DecidableEq

namespace Snapshot

def size (s : Snapshot) : Nat :=
  s.bytes.size

def isEmpty (s : Snapshot) : Bool :=
  s.size = 0

def region : Act Error Vm (UInt32 × UInt32) := do
  match ← Vm.declaredState with
  | some r => return r
  | none => Act.fail (.unsupported Entry.getStatePtr.name)

def take : Act Error Vm Snapshot := do
  let (ptr, size) ← region
  let bytes ← Vm.read ptr size.toNat
  Act.note (.regionSaved size ptr)
  return ⟨bytes⟩

/-- Any length is written that fits the memory. -/
def restore (s : Snapshot) : Act Error Vm Unit := do
  let (ptr, size) ← region
  if s.size ≠ size.toNat then Act.note (.sizesDiffer s.size size)
  Vm.write ptr s.bytes
  Act.note (.regionRestored s.size ptr)

end Snapshot

end GuestHost
