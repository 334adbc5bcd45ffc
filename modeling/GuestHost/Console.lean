/-! The line-buffered console that the guest prints to, byte by byte. -/
namespace GuestHost

/-- The part of the last line that is still open. -/
structure Console where
  pending : String := ""
  deriving DecidableEq, Inhabited

namespace Console

/-- A newline completes the line; any other byte is the character of its value. -/
def push (c : Console) (b : UInt8) : Console × List String :=
  if b = 0x0a then (⟨""⟩, [c.pending]) else (⟨c.pending.push (.ofUInt8 b)⟩, [])

/-- The console afterwards and the lines completed on the way. -/
def pushAll (c : Console) : List UInt8 → Console × List String
  | [] => (c, [])
  | b :: bs =>
    let (c, first) := c.push b
    let (c, rest) := c.pushAll bs
    (c, first ++ rest)

/-- Completes an open line, if it holds anything. -/
def flush (c : Console) : Console × List String :=
  if c.pending.isEmpty then (c, []) else c.push 0x0a

end Console

end GuestHost
