import GuestHost.Bytes

/-! Stretches of audio, one array of samples for each channel. -/
namespace GuestHost

/-- Samples are kept as the bits of single-precision floats. -/
structure Chunk where
  left : Array UInt32 := #[]
  right : Array UInt32 := #[]
  deriving DecidableEq, Inhabited

namespace Chunk

def frames (c : Chunk) : Nat :=
  c.left.size

def silent (frames : Nat) : Chunk :=
  ⟨.replicate frames 0, .replicate frames 0⟩

/-- Cut or filled up with zeros to `n` samples. -/
def resizeChannel (samples : Array UInt32) (n : Nat) : Array UInt32 :=
  samples.take n ++ Array.replicate (n - samples.size) 0

def resize (c : Chunk) (frames : Nat) : Chunk :=
  ⟨resizeChannel c.left frames, resizeChannel c.right frames⟩

def silence (c : Chunk) : Chunk :=
  ⟨c.left.map fun _ => 0, c.right.map fun _ => 0⟩

/-- Overwrites the samples for which `bytes` has all four bytes, from `offset` on. -/
def decodeChannel (bytes : ByteArray) (offset : Nat) (samples : Array UInt32) : Array UInt32 :=
  samples.mapIdx fun i old =>
    if offset + 4 * i + 4 ≤ bytes.size then Bytes.word32 bytes (offset + 4 * i) else old

/-- All samples of the left channel come first, then those of the right one. -/
def decodePlanar (c : Chunk) (bytes : ByteArray) : Chunk :=
  ⟨decodeChannel bytes 0 c.left, decodeChannel bytes (4 * c.left.size) c.right⟩

end Chunk

end GuestHost
