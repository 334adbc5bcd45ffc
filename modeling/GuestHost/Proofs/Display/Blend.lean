import GuestHost.Display.Blend
import GuestHost.Proofs.Memory
import Mathlib.Algebra.Order.Group.Abs
import Mathlib.Algebra.Order.Ring.Int

/-! Blending is exact: every channel is the nearest to the mean of the two that it blends, and no
other pixel has a part in it. -/
namespace GuestHost

namespace Blend

/-- 255 times the mean of `f` and `b`, before it is rounded. -/
def weighted (f b a : UInt8) : Nat :=
  f.toNat * a.toNat + b.toNat * (255 - a.toNat)

def word? (n : Nat) : Option Nat :=
  if n < 0x1_0000_0000 then some n else none

/-- The mean step by step: no step may go below zero or beyond 32 bits, nor the mean beyond 8. -/
def channel? (f b a : Nat) : Option Nat := do
  let front ← word? (f * a)
  let rest ← if a ≤ 255 then some (255 - a) else none
  let back ← word? (b * rest)
  let sum ← word? (front + back)
  let sum ← word? (sum + 127)
  if sum / 255 < 256 then some (sum / 255) else none

/-- `o` is the mean of `f` and `b`, of which `f` has the weight `a`. -/
structure Mixes (f b a o : UInt8) : Prop where
  exact : channel? f.toNat b.toNat a.toNat = some o.toNat
  nearest : ∀ n : Int, |255 * n - weighted f b a| ≤ 127 ↔ n = o.toNat
  least : min f.toNat b.toNat ≤ o.toNat
  most : o.toNat ≤ max f.toNat b.toNat

section Channel

variable (f b a : UInt8)

theorem weighted_le : weighted f b a ≤ 255 * max f.toNat b.toNat := by
  have ha := a.toNat_lt
  have hf : f.toNat * a.toNat ≤ max f.toNat b.toNat * a.toNat :=
    Nat.mul_le_mul_right _ (Nat.le_max_left _ _)
  have hb : b.toNat * (255 - a.toNat) ≤ max f.toNat b.toNat * (255 - a.toNat) :=
    Nat.mul_le_mul_right _ (Nat.le_max_right _ _)
  calc weighted f b a
      ≤ max f.toNat b.toNat * a.toNat + max f.toNat b.toNat * (255 - a.toNat) :=
        Nat.add_le_add hf hb
    _ = 255 * max f.toNat b.toNat := by
        rw [← Nat.mul_add, Nat.mul_comm]
        congr 1
        omega

theorem le_weighted : 255 * min f.toNat b.toNat ≤ weighted f b a := by
  have ha := a.toNat_lt
  have hf : min f.toNat b.toNat * a.toNat ≤ f.toNat * a.toNat :=
    Nat.mul_le_mul_right _ (Nat.min_le_left _ _)
  have hb : min f.toNat b.toNat * (255 - a.toNat) ≤ b.toNat * (255 - a.toNat) :=
    Nat.mul_le_mul_right _ (Nat.min_le_right _ _)
  calc 255 * min f.toNat b.toNat
      = min f.toNat b.toNat * a.toNat + min f.toNat b.toNat * (255 - a.toNat) := by
        rw [← Nat.mul_add, Nat.mul_comm]
        congr 1
        omega
    _ ≤ weighted f b a := Nat.add_le_add hf hb

theorem weighted_le_bound : weighted f b a ≤ 255 * 255 := by
  have h := weighted_le f b a
  have hf := f.toNat_lt
  have hb := b.toNat_lt
  omega

/-- The words do not wrap around. -/
theorem toNat_channel : (channel f.toUInt32 b.toUInt32 a.toUInt32).toNat =
    (weighted f b a + 127) / 255 := by
  have hbound := weighted_le_bound f b a
  have ha := a.toNat_lt
  have hle : a.toUInt32 ≤ 255 := by
    rw [UInt32.le_iff_toNat_le, UInt8.toNat_toUInt32]
    exact Nat.le_of_lt_succ ha
  unfold weighted at hbound ⊢
  rw [channel, UInt32.toNat_toUInt8, UInt32.toNat_div, UInt32.toNat_add, UInt32.toNat_add,
    UInt32.toNat_mul, UInt32.toNat_mul, UInt32.toNat_sub_of_le _ _ hle, UInt8.toNat_toUInt32,
    UInt8.toNat_toUInt32, UInt8.toNat_toUInt32]
  change ((f.toNat * a.toNat % 2 ^ 32 + b.toNat * (255 - a.toNat) % 2 ^ 32) % 2 ^ 32 + 127) %
    2 ^ 32 / 255 % 2 ^ 8 = _
  omega

theorem channel?_eq : channel? f.toNat b.toNat a.toNat =
    some ((weighted f b a + 127) / 255) := by
  have hbound := weighted_le_bound f b a
  have ha := a.toNat_lt
  unfold weighted at hbound ⊢
  simp only [channel?, word?, Option.bind_eq_bind]
  rw [if_pos (by omega), Option.bind_some, if_pos (by omega), Option.bind_some,
    if_pos (by omega), Option.bind_some, if_pos (by omega), Option.bind_some,
    if_pos (by omega), Option.bind_some, if_pos (by omega)]

theorem mixes_channel : Mixes f b a (channel f.toUInt32 b.toUInt32 a.toUInt32) := by
  have hlow := le_weighted f b a
  have hhigh := weighted_le f b a
  have ho := toNat_channel f b a
  refine ⟨by rw [channel?_eq, ho], fun n => ?_, by omega, by omega⟩
  rw [abs_le]
  omega

end Channel

/-- Two buffers have the four bytes of pixel `p` in common. -/
def Agree (p : Nat) (x y : ByteArray) : Prop :=
  ∀ c < 4, Bytes.byteAt x (4 * p + c) = Bytes.byteAt y (4 * p + c)

/-- Pixel `p` is that of `fg` over that of `bg`. Opacity mixes like a colour that is full in the
foreground. -/
structure Overlays (bg fg result : ByteArray) (p : Nat) : Prop where
  colour : ∀ c < 3, Mixes (Bytes.byteAt fg (4 * p + c)) (Bytes.byteAt bg (4 * p + c))
    (Bytes.byteAt fg (4 * p + 3)) (Bytes.byteAt result (4 * p + c))
  opacity : Mixes 255 (Bytes.byteAt bg (4 * p + 3)) (Bytes.byteAt fg (4 * p + 3))
    (Bytes.byteAt result (4 * p + 3))

namespace Mixes

variable {f b a o : UInt8}

theorem toNat_eq (h : Mixes f b a o) : o.toNat = (weighted f b a + 127) / 255 := by
  have hexact := h.exact
  rw [channel?_eq] at hexact
  exact (Option.some.inj hexact).symm

theorem eq_of_clear (h : Mixes f b 0 o) : o = b := by
  apply UInt8.toNat_inj.mp
  have ho := h.toNat_eq
  have hw : weighted f b 0 = b.toNat * 255 := by
    rw [weighted, UInt8.toNat_zero, Nat.mul_zero, Nat.zero_add, Nat.sub_zero]
  omega

theorem eq_of_full (h : Mixes f b 255 o) : o = f := by
  apply UInt8.toNat_inj.mp
  have ho := h.toNat_eq
  have hw : weighted f b 255 = f.toNat * 255 := Nat.add_zero _
  omega

theorem eq_of_same (h : Mixes f f a o) : o = f := by
  apply UInt8.toNat_inj.mp
  have hlow := h.least
  have hhigh := h.most
  omega

end Mixes

namespace Overlays

variable {bg fg result : ByteArray} {p : Nat}

theorem agree_of_clear (h : Overlays bg fg result p) (ha : Bytes.byteAt fg (4 * p + 3) = 0) :
    Agree p result bg := by
  intro c hc
  rcases Nat.lt_or_eq_of_le (Nat.le_of_lt_succ hc) with hlt | rfl
  · have hmix := h.colour c hlt
    rw [ha] at hmix
    exact hmix.eq_of_clear
  · have hmix := h.opacity
    rw [ha] at hmix
    exact hmix.eq_of_clear

theorem agree_of_full (h : Overlays bg fg result p) (ha : Bytes.byteAt fg (4 * p + 3) = 255) :
    Agree p result fg := by
  intro c hc
  rcases Nat.lt_or_eq_of_le (Nat.le_of_lt_succ hc) with hlt | rfl
  · have hmix := h.colour c hlt
    rw [ha] at hmix
    exact hmix.eq_of_full
  · have hmix := h.opacity
    rw [ha] at hmix ⊢
    exact hmix.eq_of_full

theorem full_of_full (h : Overlays bg fg result p) (hb : Bytes.byteAt bg (4 * p + 3) = 255) :
    Bytes.byteAt result (4 * p + 3) = 255 := by
  have hmix := h.opacity
  rw [hb] at hmix
  exact hmix.eq_of_same

end Overlays

section Compose

variable {bg fg out : ByteArray} {i p : Nat}

theorem byteAt_compose_of_le (h : 4 * pixels bg fg out ≤ i) :
    Bytes.byteAt (compose bg fg out) i = Bytes.byteAt out i := by
  by_cases hi : i < out.size
  · rw [compose, Bytes.byteAt_tabulate _ hi, if_neg (Nat.not_lt.mpr h)]
  · have hout : out.size ≤ i := Nat.not_lt.mp hi
    rw [Bytes.byteAt_of_le hout, Bytes.byteAt_of_le (by rwa [compose, Bytes.size_tabulate])]

theorem byteAt_compose_of_lt (h : i < 4 * pixels bg fg out) :
    Bytes.byteAt (compose bg fg out) i = byte bg fg i := by
  have hi : i < out.size := by
    unfold pixels at h
    omega
  rw [compose, Bytes.byteAt_tabulate _ hi, if_pos h]

theorem byte_of_colour {c : Nat} (hc : c < 3) : byte bg fg (4 * p + c) =
    channel (Bytes.byteAt fg (4 * p + c)).toUInt32 (Bytes.byteAt bg (4 * p + c)).toUInt32
      (Bytes.byteAt fg (4 * p + 3)).toUInt32 := by
  have hpixel : (4 * p + c) / 4 * 4 + 3 = 4 * p + 3 := by omega
  have hmod : (4 * p + c) % 4 ≠ 3 := by omega
  simp only [byte, hpixel, if_neg hmod]

theorem byte_of_opacity : byte bg fg (4 * p + 3) =
    channel 255 (Bytes.byteAt bg (4 * p + 3)).toUInt32 (Bytes.byteAt fg (4 * p + 3)).toUInt32 := by
  have hpixel : (4 * p + 3) / 4 * 4 + 3 = 4 * p + 3 := by omega
  have hmod : (4 * p + 3) % 4 = 3 := by omega
  simp only [byte, hpixel, if_pos hmod]

theorem overlays_compose (h : p < pixels bg fg out) : Overlays bg fg (compose bg fg out) p where
  colour := by
    intro c hc
    rw [byteAt_compose_of_lt (by omega), byte_of_colour hc]
    exact mixes_channel _ _ _
  opacity := by
    rw [byteAt_compose_of_lt (by omega), byte_of_opacity]
    exact mixes_channel 255 _ _

theorem agree_compose {bg' fg' out' : ByteArray} (h : p < pixels bg fg out)
    (h' : p < pixels bg' fg' out') (hbg : Agree p bg bg') (hfg : Agree p fg fg') :
    Agree p (compose bg fg out) (compose bg' fg' out') := by
  intro c hc
  rw [byteAt_compose_of_lt (by omega), byteAt_compose_of_lt (by omega)]
  have ha := hfg 3 (by omega)
  rcases Nat.lt_or_eq_of_le (Nat.le_of_lt_succ hc) with hlt | rfl
  · rw [byte_of_colour hlt, byte_of_colour hlt, hbg c hc, hfg c hc, ha]
  · rw [byte_of_opacity, byte_of_opacity, hbg 3 hc, ha]

end Compose

/-- What becomes of a buffer that `fg` over `bg` is drawn onto. -/
structure Exact (bg fg out : ByteArray) : Prop where
  size : (compose bg fg out).size = out.size
  behind : ∀ i, 4 * pixels bg fg out ≤ i →
    Bytes.byteAt (compose bg fg out) i = Bytes.byteAt out i
  overlays : ∀ p < pixels bg fg out, Overlays bg fg (compose bg fg out) p
  alone : ∀ p < pixels bg fg out, ∀ bg' fg' out', p < pixels bg' fg' out' →
    Agree p bg bg' → Agree p fg fg' → Agree p (compose bg fg out) (compose bg' fg' out')
  clear : ∀ p < pixels bg fg out, Bytes.byteAt fg (4 * p + 3) = 0 →
    Agree p (compose bg fg out) bg
  full : ∀ p < pixels bg fg out, Bytes.byteAt fg (4 * p + 3) = 255 →
    Agree p (compose bg fg out) fg
  solid : ∀ p < pixels bg fg out, Bytes.byteAt bg (4 * p + 3) = 255 →
    Bytes.byteAt (compose bg fg out) (4 * p + 3) = 255

/-- Whatever the lengths of the three buffers are. -/
theorem compose_exact (bg fg out : ByteArray) : Exact bg fg out where
  size := Bytes.size_tabulate _ _
  behind := fun _ => byteAt_compose_of_le
  overlays := fun _ => overlays_compose
  alone := fun _ hp _ _ _ => agree_compose hp
  clear := fun _ hp => (overlays_compose hp).agree_of_clear
  full := fun _ hp => (overlays_compose hp).agree_of_full
  solid := fun _ hp => (overlays_compose hp).full_of_full

/-- A pixel half clear over a black one, and two bytes that make no pixel. -/
example : compose ⟨#[0, 0, 0, 255, 9, 9]⟩ ⟨#[255, 100, 0, 128, 9, 9]⟩ ⟨#[1, 1, 1, 1, 1, 1]⟩ =
    ⟨#[128, 50, 0, 255, 1, 1]⟩ := by decide

end Blend

end GuestHost
