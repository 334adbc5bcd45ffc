import GuestHost.Bytes

/-! Frames, and their image files. -/
namespace GuestHost

/-- Rows of pixels from the top, four bytes a pixel. -/
structure Frame where
  width : UInt32
  height : UInt32
  rgba : ByteArray
  deriving DecidableEq

namespace Png

inductive Error where
  | zeroWidth
  | zeroHeight
  | wrongSize (expected actual : Nat)
  deriving DecidableEq

def Error.message : Error → String
  | .zeroWidth => "Zero width not allowed"
  | .zeroHeight => "Zero height not allowed"
  | .wrongSize expected actual =>
    "wrong data size, expected " ++ expected.repr ++ " got " ++ actual.repr

/-- One step of the reflected polynomial division. -/
def crcStep (c : UInt32) : UInt32 :=
  if c &&& 1 = 1 then (c >>> 1) ^^^ 0xedb88320 else c >>> 1

def crcTable : Array UInt32 :=
  .ofFn fun i : Fin 256 => Nat.repeat crcStep 8 (.ofNat i)

def crcByte (c : UInt32) (b : UInt8) : UInt32 :=
  crcTable.getD ((c ^^^ b.toUInt32) &&& 0xff).toNat 0 ^^^ (c >>> 8)

def crc32 (bytes : ByteArray) : UInt32 :=
  bytes.foldl crcByte 0xffffffff ^^^ 0xffffffff

def adlerByte (s : UInt32 × UInt32) (b : UInt8) : UInt32 × UInt32 :=
  let low := (s.1 + b.toUInt32) % 65521
  (low, (s.2 + low) % 65521)

def adler32 (bytes : ByteArray) : UInt32 :=
  let (low, high) := bytes.foldl adlerByte (1, 0)
  high <<< 16 ||| low

/-- Length, kind, content and a checksum of the last two. -/
def chunk (kind : List UInt8) (content : ByteArray) : ByteArray :=
  let body := ⟨kind.toArray⟩ ++ content
  Bytes.ofWord32BE content.size.toUInt32 ++ body ++ Bytes.ofWord32BE (crc32 body)

/-- The longest block that is stored as it is. -/
def maxBlock : Nat := 65535

/-- Block `i` of `count`, which holds at most `maxBlock` bytes. -/
def storedBlock (data : ByteArray) (count i : Nat) : ByteArray :=
  let content := data.extract (i * maxBlock) ((i + 1) * maxBlock)
  let n := content.size.toUInt16
  ⟨#[if i + 1 = count then 1 else 0, n.toUInt8, (n >>> 8).toUInt8, (~~~n).toUInt8,
    ((~~~n) >>> 8).toUInt8]⟩ ++ content

/-- A compressed stream that stores every byte. -/
def stored (data : ByteArray) : ByteArray :=
  let count := (data.size + maxBlock - 1) / maxBlock
  let blocks := (List.range count).foldl (fun out i => out ++ storedBlock data count i)
    (⟨#[0x78, 0x01]⟩ : ByteArray)
  blocks ++ Bytes.ofWord32BE (adler32 data)

def signature : ByteArray :=
  ⟨#[0x89, 0x50, 0x4e, 0x47, 0x0d, 0x0a, 0x1a, 0x0a]⟩

/-- Eight bits a channel, four channels, no interlacing. -/
def header (width height : UInt32) : ByteArray :=
  chunk [0x49, 0x48, 0x44, 0x52]
    (Bytes.ofWord32BE width ++ Bytes.ofWord32BE height ++ ⟨#[8, 6, 0, 0, 0]⟩)

/-- Every row behind a zero, which says that it is not filtered. -/
def rows (f : Frame) : ByteArray :=
  let row := 4 * f.width.toNat
  Bytes.tabulate (f.rgba.size / row * (row + 1)) fun i =>
    let column := i % (row + 1)
    if column = 0 then 0 else Bytes.byteAt f.rgba (i / (row + 1) * row + (column - 1))

def trailer : ByteArray :=
  chunk [0x49, 0x45, 0x4e, 0x44] .empty

end Png

/-- Counted in 64 bits. -/
def Frame.expectedSize (f : Frame) : Nat :=
  f.width.toNat * f.height.toNat * 4 % 0x1_0000_0000_0000_0000

/-- The image file of a frame. -/
def Frame.png (f : Frame) : Except Png.Error ByteArray :=
  if f.width = 0 then .error .zeroWidth
  else if f.height = 0 then .error .zeroHeight
  else if f.rgba.size ≠ f.expectedSize then .error (.wrongSize f.expectedSize f.rgba.size)
  else .ok (Png.signature ++ Png.header f.width f.height ++
    Png.chunk [0x49, 0x44, 0x41, 0x54] (Png.stored (Png.rows f)) ++ Png.trailer)

end GuestHost
