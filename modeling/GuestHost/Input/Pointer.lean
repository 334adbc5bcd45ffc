import GuestHost.Binary64

/-! Pointer events, and where on the display they fall. -/
namespace GuestHost

inductive PointerKind where
  | move
  | down
  | up
  deriving DecidableEq

/-- A position in the window, with the buttons held as bits. -/
structure PointerEvent where
  kind : PointerKind
  x : Binary64
  y : Binary64
  buttons : UInt8
  deriving DecidableEq

/-- The box of the display in the window. -/
structure Bounds where
  left : Binary64
  top : Binary64
  width : Binary64
  height : Binary64
  deriving DecidableEq

/-- What the guest learns of the pointer. -/
structure PointerInput where
  x : Int32
  y : Int32
  buttons : UInt8
  deriving DecidableEq

namespace PointerEvent

/-- Scales one coordinate to `pixels`. Positions outside the box are not clamped to it. -/
def scale (pixels : UInt32) (client origin extent : Binary64) : Int32 :=
  (Binary64.ofFloat
    (pixels.toFloat * (client.toFloat - origin.toFloat) / extent.toFloat)).toInt32

def position (e : PointerEvent) (b : Bounds) (width height : UInt32) : Int32 × Int32 :=
  (scale width e.x b.left b.width, scale height e.y b.top b.height)

end PointerEvent

end GuestHost
