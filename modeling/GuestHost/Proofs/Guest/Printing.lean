import GuestHost.Proofs.Guest.Stop

/-! What a guest prints. A text in memory runs up to the next zero; to print it is to print its
bytes one after another, and where no zero comes nothing is printed at all. -/
namespace GuestHost

namespace Bytes

variable {data text : ByteArray} {addr : Nat}

/-- A zero stands at the address or behind it. -/
def Ends (data : ByteArray) (addr : Nat) : Prop :=
  ∃ i, addr ≤ i ∧ i < data.size ∧ byteAt data i = 0

/-- The text stands at the address, holds no zero and is followed by one. -/
structure TextAt (data : ByteArray) (addr : Nat) (text : ByteArray) : Prop where
  inside : addr + text.size < data.size
  copied : text = data.extract addr (addr + text.size)
  nonzero : 0 ∉ text.data.toList
  ended : byteAt data (addr + text.size) = 0

theorem TextAt.ends (h : TextAt data addr text) : Ends data addr :=
  ⟨addr + text.size, by omega, h.inside, h.ended⟩

end Bytes

namespace Machine

variable {m : Machine} {caller : Caller} {ptr : UInt32} {α : Type}

end Machine

end GuestHost
