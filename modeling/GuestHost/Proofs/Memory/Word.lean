import GuestHost.Proofs.Memory

/-! Words in byte strings: a word is made of four bytes, and they can be told from it. -/
namespace GuestHost.Bytes

@[simp] theorem size_ofWord32 (v : UInt32) : (ofWord32 v).size = 4 := rfl

theorem word32_congr {b b' : ByteArray} {i j : Nat}
    (h : ∀ k < 4, byteAt b (i + k) = byteAt b' (j + k)) : word32 b i = word32 b' j := by
  have hfirst := h 0 (by omega)
  rw [Nat.add_zero, Nat.add_zero] at hfirst
  unfold word32
  rw [hfirst, h 1 (by omega), h 2 (by omega), h 3 (by omega)]

/-- Bits above all those of a number are added to it. -/
theorem or_shiftLeft {low i : Nat} (h : low < 1 <<< i) (high : Nat) :
    low ||| high <<< i = low + high <<< i := by
  rw [Nat.one_shiftLeft] at h
  rw [Nat.or_comm, ← Nat.shiftLeft_add_eq_or_of_lt h, Nat.add_comm]

theorem toNat_word32 (b : ByteArray) (i : Nat) : (word32 b i).toNat =
    (byteAt b i).toNat + 0x100 * (byteAt b (i + 1)).toNat + 0x1_0000 * (byteAt b (i + 2)).toNat +
      0x100_0000 * (byteAt b (i + 3)).toNat := by
  have h₀ := (byteAt b i).toNat_lt
  have h₁ := (byteAt b (i + 1)).toNat_lt
  have h₂ := (byteAt b (i + 2)).toNat_lt
  have h₃ := (byteAt b (i + 3)).toNat_lt
  have hwhole : ∀ n < 0x1_0000_0000, n % 2 ^ 32 = n := fun n => Nat.mod_eq_of_lt
  unfold word32
  simp only [UInt32.toNat_or, UInt32.toNat_shiftLeft, UInt8.toNat_toUInt32, UInt32.reduceToNat,
    Nat.reduceMod]
  rw [hwhole _ (by omega), hwhole _ (by omega), hwhole _ (by omega), or_shiftLeft (i := 8) h₀,
    or_shiftLeft (i := 16) (by omega), or_shiftLeft (i := 24) (by omega)]
  omega

/-- The lowest byte of a word comes first. -/
theorem toNat_byteAt_ofWord32 (v : UInt32) {k : Nat} (h : k < 4) :
    (byteAt (ofWord32 v) k).toNat = v.toNat >>> (8 * k) % 256 := by
  have hshift : ∀ n : UInt32, (v >>> n).toUInt8.toNat = v.toNat >>> (n.toNat % 32) % 256 := by
    intro n
    rw [UInt32.toNat_toUInt8, UInt32.toNat_shiftRight]
  match k, h with
  | 0, _ => exact UInt32.toNat_toUInt8 v
  | 1, _ => exact hshift 8
  | 2, _ => exact hshift 16
  | 3, _ => exact hshift 24

theorem byteAt_ofWord32_word32 (b : ByteArray) (i : Nat) {k : Nat} (h : k < 4) :
    byteAt (ofWord32 (word32 b i)) k = byteAt b (i + k) := by
  have h₀ := (byteAt b i).toNat_lt
  have h₁ := (byteAt b (i + 1)).toNat_lt
  have h₂ := (byteAt b (i + 2)).toNat_lt
  have h₃ := (byteAt b (i + 3)).toNat_lt
  apply UInt8.toNat_inj.mp
  rw [toNat_byteAt_ofWord32 _ h, toNat_word32]
  match k, h with
  | 0, _ =>
    rw [Nat.add_zero i]
    omega
  | 1, _ => omega
  | 2, _ => omega
  | 3, _ => omega

theorem word32_ofWord32 (v : UInt32) : word32 (ofWord32 v) 0 = v := by
  have hv := v.toNat_lt
  apply UInt32.toNat_inj.mp
  rw [toNat_word32, toNat_byteAt_ofWord32 v (by omega), toNat_byteAt_ofWord32 v (by omega),
    toNat_byteAt_ofWord32 v (by omega), toNat_byteAt_ofWord32 v (by omega)]
  omega

end GuestHost.Bytes
