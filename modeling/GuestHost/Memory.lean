import GuestHost.Bytes
import GuestHost.Error

/-! The guest's linear memory. Every access is checked against its current size. -/
namespace GuestHost

/-- The addresses from `start` up to, but not including, `stop`. -/
structure Span where
  start : Nat
  stop : Nat
  deriving DecidableEq

/-- The `len` addresses from `addr` on, if a memory of `size` bytes has them all. -/
def Span.within (size : Nat) (addr : UInt32) (len : Nat) : Except Error Span :=
  match Word.add? addr.toNat len with
  | some stop =>
    if stop ≤ size then .ok ⟨addr.toNat, stop⟩ else .error (.outOfRange addr.toNat len size)
  | none => .error (.outOfRange addr.toNat len size)

/-- The bytes from `addr` up to the next zero. -/
def terminatedText (data : ByteArray) (addr : UInt32) : Except Error ByteArray :=
  if data.size < addr.toNat then .error (.outOfRange addr.toNat 1 data.size)
  else match Bytes.zeroFrom? data (data.size - addr.toNat) addr.toNat with
    | some stop => .ok (data.extract addr.toNat stop)
    | none => .error (.unterminated addr.toNat)

/-- The memory grows page by page, up to `maxPages` of them. -/
structure Memory where
  bytes : ByteArray
  maxPages : Nat

namespace Memory

def pageSize : Nat := 65536

/-- The pages that 32-bit addresses reach. -/
def addressablePages : Nat := 65536

def blank (pages : Nat) (maxPages : Option Nat) : Memory where
  bytes := Bytes.zeros (pages * pageSize)
  maxPages := min (maxPages.getD addressablePages) addressablePages

/-- A memory of no bytes, which cannot grow. -/
def none : Memory :=
  ⟨.empty, 0⟩

def size (m : Memory) : Nat :=
  m.bytes.size

def pages (m : Memory) : Nat :=
  m.size / pageSize

def read (m : Memory) (addr : UInt32) (len : Nat) : Except Error ByteArray :=
  (Span.within m.size addr len).map fun span => m.bytes.extract span.start span.stop

def write (m : Memory) (addr : UInt32) (bytes : ByteArray) : Except Error Memory :=
  (Span.within m.size addr bytes.size).map fun span =>
    { m with bytes := Bytes.overwrite m.bytes span.start bytes }

def fill (m : Memory) (b : UInt8) : Memory :=
  { m with bytes := Bytes.replicate m.size b }

/-- The memory with zero pages added, unless that is too many. -/
def grow? (m : Memory) (delta : Nat) : Option Memory :=
  if m.pages + delta ≤ m.maxPages then
    some { m with bytes := m.bytes ++ Bytes.zeros (delta * pageSize) }
  else Option.none

/-- The guest's own loads; no address wraps around. -/
def load? (m : Memory) (addr len : Nat) : Option ByteArray :=
  if addr + len ≤ m.size then some (m.bytes.extract addr (addr + len)) else Option.none

def store? (m : Memory) (addr : Nat) (bytes : ByteArray) : Option Memory :=
  if addr + bytes.size ≤ m.size then some { m with bytes := Bytes.overwrite m.bytes addr bytes }
  else Option.none

/-- Sets `len` bytes to `b`, all or none. -/
def fill? (m : Memory) (addr : Nat) (b : UInt8) (len : Nat) : Option Memory :=
  if addr + len ≤ m.size then
    some { m with bytes := Bytes.overwrite m.bytes addr (Bytes.replicate len b) }
  else Option.none

end Memory

end GuestHost
