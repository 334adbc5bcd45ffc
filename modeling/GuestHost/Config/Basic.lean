import GuestHost.Word

/-! Session settings, their checks and the sizes that follow from them. -/
namespace GuestHost

namespace Config

/-- The size of both layers, in pixels. -/
structure Display where
  width : UInt32 := 384
  height : UInt32 := 256
  deriving DecidableEq, Inhabited

/-- The part of the guest's address space that a ROM image may fill. -/
structure AddressSpace where
  size : UInt32 := 0x10000
  reservedHeader : UInt32 := 0x100
  deriving DecidableEq, Inhabited

structure Audio where
  chunkFrames : UInt32 := 1024
  sampleRate : UInt32 := 44100
  deriving DecidableEq, Inhabited

/-- Key codes that act on the session and never reach the guest. -/
structure Hotkeys where
  save : Option UInt32 := none
  restore : Option UInt32 := none
  reset : Option UInt32 := none
  deriving DecidableEq, Inhabited

end Config

structure Config where
  display : Config.Display := {}
  memory : Config.AddressSpace := {}
  audio : Config.Audio := {}
  hotkeys : Config.Hotkeys := {}
  deriving DecidableEq, Inhabited

namespace Config

/-- Four bytes a pixel, unless 64 bits cannot hold the product. -/
def Display.layerLength? (d : Display) : Option Nat :=
  (Word.mul? d.width.toNat d.height.toNat).bind (Word.mul? · 4)

def Display.layerLength (d : Display) : Nat :=
  d.layerLength?.getD (Word.bound - 1)

/-- The longest ROM image that is loaded. -/
def AddressSpace.romCapacity (m : AddressSpace) : Nat :=
  m.size.toNat - m.reservedHeader.toNat

/-- The bytes of a layer of 4096 by 4096 pixels. -/
def maxLayerLength : Nat := 4096 * 4096 * 4

def maxChunkFrames : Nat := 65536

/-- What makes a well-formed configuration unusable. -/
inductive Defect where
  | emptyDisplay
  | largeDisplay
  | emptyChunk
  | largeChunk
  | largeHeader
  deriving DecidableEq

def Defect.message : Defect → String
  | .emptyDisplay => "display size must be non-zero"
  | .largeDisplay => "display area exceeds 4096x4096 pixels"
  | .emptyChunk => "audio chunk must hold at least one frame"
  | .largeChunk => "audio chunk is larger than 65536 frames"
  | .largeHeader => "reserved header must be smaller than the address space"

def Display.fits (d : Display) : Bool :=
  match d.layerLength? with
  | some n => n ≤ maxLayerLength
  | none => false

/-- The first defect, in the order of the tests. -/
def defect? (c : Config) : Option Defect :=
  if c.display.width = 0 ∨ c.display.height = 0 then some .emptyDisplay
  else if !c.display.fits then some .largeDisplay
  else if c.audio.chunkFrames = 0 then some .emptyChunk
  else if maxChunkFrames < c.audio.chunkFrames.toNat then some .largeChunk
  else if c.memory.size ≤ c.memory.reservedHeader then some .largeHeader
  else none

end Config

end GuestHost
