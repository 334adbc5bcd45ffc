import GuestHost.Config.Basic
import GuestHost.Input.Gamepad
import GuestHost.Input.Key
import GuestHost.Input.Pointer

/-! One mask from two producers: the keyboard, and the gamepad that is bound. -/
namespace GuestHost

structure Arbiter where
  display : Config.Display
  keyMask : UInt8 := 0
  padMask : UInt8 := 0
  lastForwarded : UInt8 := 0
  boundPad : Option UInt32 := none
  deriving DecidableEq

namespace Arbiter

/-- The union of what both hold. -/
def mask (a : Arbiter) : UInt8 :=
  a.keyMask ||| a.padMask

/-- Forgets what is held; the binding stays. -/
def reset (a : Arbiter) : Arbiter :=
  { a with keyMask := 0, padMask := 0, lastForwarded := 0 }

def keyMaskAfter (m : UInt8) (e : KeyEvent) : UInt8 :=
  match e.state with
  | .down => m ||| KeyEvent.bit e.code
  | .up => m &&& ~~~(KeyEvent.bit e.code)

/-- A key event is always forwarded. -/
def keyboard (a : Arbiter) (e : KeyEvent) : Arbiter × KeyboardInput :=
  let a := { a with keyMask := keyMaskAfter a.keyMask e }
  ({ a with lastForwarded := a.mask }, ⟨a.mask, e.charCode⟩)

def pointer (a : Arbiter) (e : PointerEvent) (b : Bounds) : PointerInput :=
  let (x, y) := e.position b a.display.width a.display.height
  ⟨x, y, e.buttons⟩

/-- Only gamepads of the standard layout are bound; the last one wins. -/
def connect (a : Arbiter) (index : UInt32) (standard : Bool) : Arbiter × Bool :=
  if standard then ({ a with boundPad := some index }, true) else (a, false)

def disconnect (a : Arbiter) (index : UInt32) : Arbiter :=
  if a.boundPad = some index then { a with boundPad := none } else a

def polledMask (pads : Gamepads) (boundPad : Option UInt32) : UInt8 :=
  boundPad.elim 0 pads.mask

/-- A poll is forwarded only when it changes the mask. -/
def poll (a : Arbiter) (pads : Gamepads) : Arbiter × Option KeyboardInput :=
  let a := { a with padMask := polledMask pads a.boundPad }
  if a.mask = a.lastForwarded then (a, none)
  else ({ a with lastForwarded := a.mask }, some ⟨a.mask, 0⟩)

end Arbiter

end GuestHost
