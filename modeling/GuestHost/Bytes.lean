/-! Byte strings: filling, overwriting and little-endian words. -/
namespace GuestHost.Bytes

/-- One comparison everywhere, whatever else is imported. -/
instance decEq : DecidableEq ByteArray :=
  ByteArray.instDecidableEq

/-- Appends `f i, …, f (i + n - 1)`. -/
def tabulateOnto (f : Nat → UInt8) : (n i : Nat) → ByteArray → ByteArray
  | 0, _, acc => acc
  | n + 1, i, acc => tabulateOnto f n (i + 1) (acc.push (f i))

def tabulate (n : Nat) (f : Nat → UInt8) : ByteArray :=
  tabulateOnto f n 0 .empty

def replicate (n : Nat) (b : UInt8) : ByteArray :=
  tabulate n fun _ => b

def zeros (n : Nat) : ByteArray :=
  replicate n 0

/-- Byte `i`, zero past the end. -/
def byteAt (b : ByteArray) (i : Nat) : UInt8 :=
  if h : i < b.size then b[i] else 0

/-- Replaces the bytes from `offset` on by `source`. -/
def overwrite (b : ByteArray) (offset : Nat) (source : ByteArray) : ByteArray :=
  source.copySlice 0 b offset source.size

/-- The little-endian 32-bit word whose lowest byte is byte `i`. -/
def word32 (b : ByteArray) (i : Nat) : UInt32 :=
  (byteAt b i).toUInt32 ||| (byteAt b (i + 1)).toUInt32 <<< 8 |||
    (byteAt b (i + 2)).toUInt32 <<< 16 ||| (byteAt b (i + 3)).toUInt32 <<< 24

def ofWord32 (v : UInt32) : ByteArray :=
  ⟨#[v.toUInt8, (v >>> 8).toUInt8, (v >>> 16).toUInt8, (v >>> 24).toUInt8]⟩

def ofWord64 (v : UInt64) : ByteArray :=
  ofWord32 v.toUInt32 ++ ofWord32 (v >>> 32).toUInt32

/-- The big-endian spelling, for formats that put the highest byte first. -/
def ofWord32BE (v : UInt32) : ByteArray :=
  ⟨#[(v >>> 24).toUInt8, (v >>> 16).toUInt8, (v >>> 8).toUInt8, v.toUInt8]⟩

/-- The first `i` from `start` on with `b[i] = 0`, counted in `n` more bytes. -/
def zeroFrom? (b : ByteArray) : (n start : Nat) → Option Nat
  | 0, _ => none
  | n + 1, i => if byteAt b i = 0 then some i else zeroFrom? b n (i + 1)

theorem size_tabulateOnto (f : Nat → UInt8) (n i : Nat) (acc : ByteArray) :
    (tabulateOnto f n i acc).size = acc.size + n := by
  induction n generalizing i acc with
  | zero => rfl
  | succ n ih => rw [tabulateOnto, ih, ByteArray.size_push]; omega

@[simp] theorem size_tabulate (n : Nat) (f : Nat → UInt8) : (tabulate n f).size = n := by
  rw [tabulate, size_tabulateOnto]; simp

@[simp] theorem size_replicate (n : Nat) (b : UInt8) : (replicate n b).size = n :=
  size_tabulate n _

@[simp] theorem size_zeros (n : Nat) : (zeros n).size = n :=
  size_replicate n 0

theorem size_overwrite {b source : ByteArray} {offset : Nat} (h : offset + source.size ≤ b.size) :
    (overwrite b offset source).size = b.size := by
  simp only [overwrite, ByteArray.copySlice_eq_append, ByteArray.size_append,
    ByteArray.size_extract, ByteArray.size_data]
  omega

end GuestHost.Bytes
