import GuestHost.Vm

/-! Audio pulled from the guest, one chunk at a time. -/
namespace GuestHost

/-- Fills the lent chunk with `frames` samples a channel; silence, if the guest plays nothing. The
chunk has its new length even when the pull fails. -/
def Vm.pullChunk (frames : Nat) : Act Error (Vm × Chunk) Unit := do
  Act.modify fun (vm, c) => (vm, c.resize frames)
  match ← Act.on Prod.fst (fun vm p => (vm, p.2)) Vm.samplesAddress with
  | none => Act.modify fun (vm, c) => (vm, c.silence)
  | some ptr => do
    let bytes ← Act.on Prod.fst (fun vm p => (vm, p.2)) (Vm.read ptr (frames * 2 * 4))
    Act.modify fun (vm, c) => (vm, c.decodePlanar bytes)

end GuestHost
