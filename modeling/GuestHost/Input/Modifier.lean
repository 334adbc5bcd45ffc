/-! The modifier mask: one bit for each key that the guest's controller has. -/
namespace GuestHost

inductive Modifier where
  | ctrl
  | alt
  | shift
  | escape
  | up
  | down
  | left
  | right
  deriving DecidableEq

namespace Modifier

/-- In the order of their bits. -/
def all : List Modifier :=
  [ctrl, alt, shift, escape, up, down, left, right]

def name : Modifier → String
  | ctrl => "Ctrl"
  | alt => "Alt"
  | shift => "Shift"
  | escape => "Escape"
  | up => "Up"
  | down => "Down"
  | left => "Left"
  | right => "Right"

def bit : Modifier → UInt8
  | ctrl => 0x01
  | alt => 0x02
  | shift => 0x04
  | escape => 0x08
  | up => 0x10
  | down => 0x20
  | left => 0x40
  | right => 0x80

end Modifier

/-- What the guest learns of the keyboard: the mask, and a character or zero. -/
structure KeyboardInput where
  mask : UInt8
  charCode : UInt8
  deriving DecidableEq

end GuestHost
