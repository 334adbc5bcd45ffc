import GuestHost.Bytes

/-! Blending one layer over another, four bytes a pixel, the last of them its opacity. -/
namespace GuestHost.Blend

/-- The mean of two values weighted by `alpha`, rounded to the nearest. -/
def channel (fg bg alpha : UInt32) : UInt8 :=
  ((fg * alpha + bg * (255 - alpha) + 127) / 255).toUInt8

/-- Byte `i` of `fg` over `bg`. Opacity blends like a colour that is full in the foreground. -/
def byte (bg fg : ByteArray) (i : Nat) : UInt8 :=
  let alpha := (Bytes.byteAt fg (i / 4 * 4 + 3)).toUInt32
  let under := (Bytes.byteAt bg i).toUInt32
  if i % 4 = 3 then channel 255 under alpha
  else channel (Bytes.byteAt fg i).toUInt32 under alpha

/-- The whole pixels that all three have. -/
def pixels (bg fg out : ByteArray) : Nat :=
  min (min (out.size / 4) (bg.size / 4)) (fg.size / 4)

/-- `out` with its pixels replaced by those of `fg` over `bg`. -/
def compose (bg fg out : ByteArray) : ByteArray :=
  let covered := 4 * pixels bg fg out
  Bytes.tabulate out.size fun i => if i < covered then byte bg fg i else Bytes.byteAt out i

end GuestHost.Blend
