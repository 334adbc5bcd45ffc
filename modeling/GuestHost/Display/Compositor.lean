import GuestHost.Display.Blend
import GuestHost.Display.Png
import GuestHost.Memory

/-! The two layers that the guest draws, and the frame they make. -/
namespace GuestHost

/-- The layers last drawn, and the foreground over the background. -/
structure Drawing where
  background : ByteArray
  foreground : ByteArray
  output : ByteArray
  deriving DecidableEq

/-- All is zero until something is drawn. -/
structure Compositor where
  display : Config.Display
  drawing : Option Drawing := none
  presented : Nat := 0
  deriving DecidableEq

namespace Compositor

def layerLength (c : Compositor) : Nat :=
  c.display.layerLength

def blank (c : Compositor) : Drawing :=
  let layer := Bytes.zeros c.layerLength
  ⟨layer, layer, layer⟩

def current (c : Compositor) : Drawing :=
  c.drawing.getD c.blank

/-- The last frame, zero before the first. -/
def frame (c : Compositor) : Frame where
  width := c.display.width
  height := c.display.height
  rgba := c.current.output

def draw (c : Compositor) (background foreground : ByteArray) : Compositor where
  display := c.display
  drawing := some ⟨background, foreground, Blend.compose background foreground c.current.output⟩
  presented := c.presented + 1

/-- Both layers are checked before either is taken. -/
def render (c : Compositor) (memory : ByteArray) (bg fg : UInt32) : Except Error Compositor := do
  let back ← Span.within memory.size bg c.layerLength
  let front ← Span.within memory.size fg c.layerLength
  return c.draw (memory.extract back.start back.stop) (memory.extract front.start front.stop)

end Compositor

end GuestHost
