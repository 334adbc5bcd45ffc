import GuestHost.Input.Modifier

/-! Key events, the modifiers they drive and the characters they carry. -/
namespace GuestHost

inductive KeyState where
  | down
  | up
  deriving DecidableEq

/-- The code names the key; the text is what it produces. -/
structure KeyEvent where
  state : KeyState
  code : UInt32
  text : String
  deriving DecidableEq

namespace KeyEvent

def modifier? (code : UInt32) : Option Modifier :=
  if code = 17 then some .ctrl
  else if code = 18 then some .alt
  else if code = 16 then some .shift
  else if code = 27 then some .escape
  else if code = 38 then some .up
  else if code = 40 then some .down
  else if code = 37 then some .left
  else if code = 39 then some .right
  else none

/-- The bit of a key, zero if it drives none. -/
def bit (code : UInt32) : UInt8 :=
  (modifier? code).elim 0 Modifier.bit

/-- Codes below this one are control characters. -/
def controlLimit : UInt32 := 20

/-- The code of a key that produces no single character. -/
def controlCode (code : UInt32) : UInt8 :=
  if bit code = 0 ∧ code < controlLimit then code.toUInt8 else 0

/-- The low byte of the only character, if 16 bits hold it. A release carries none. -/
def charCode (e : KeyEvent) : UInt8 :=
  match e.state with
  | .up => 0
  | .down => match e.text.toList with
    | [c] => if c.toNat < 0x10000 then c.toNat.toUInt8 else 0
    | _ => controlCode e.code

end KeyEvent

end GuestHost
