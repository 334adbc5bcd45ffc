import GuestHost.Input.Modifier

/-! Gamepads as the buttons that are pressed, and the mask of one of them. -/
namespace GuestHost

/-- Whether a button of the gamepad with an index is pressed. -/
abbrev Gamepads := (index : UInt32) → (button : Nat) → Bool

namespace Gamepads

def none : Gamepads := fun _ _ => false

/-- The buttons of the standard layout that drive a modifier. -/
def buttons : List (Nat × Modifier) :=
  [(0, .ctrl), (1, .alt), (2, .shift), (8, .escape), (9, .escape), (12, .up), (13, .down),
    (14, .left), (15, .right)]

def mask (pads : Gamepads) (index : UInt32) : UInt8 :=
  (buttons.filter fun (button, _) => pads index button).foldl (fun m (_, k) => m ||| k.bit) 0

end Gamepads

end GuestHost
