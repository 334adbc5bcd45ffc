import GuestHost.Memory
import Mathlib.Tactic.SplitIfs

/-! Memory byte by byte: which ranges the host may touch, what it reads there, and what its writes
leave alone. -/
namespace GuestHost

namespace Bytes

variable {b source : ByteArray}

theorem byteAt_of_lt {i : Nat} (h : i < b.size) : byteAt b i = b[i] :=
  dif_pos h

theorem byteAt_of_le {i : Nat} (h : b.size ≤ i) : byteAt b i = 0 :=
  dif_neg (Nat.not_lt.mpr h)

theorem byteAt_append (b source : ByteArray) (i : Nat) :
    byteAt (b ++ source) i = if i < b.size then byteAt b i else byteAt source (i - b.size) := by
  by_cases hb : i < b.size
  · have ha : i < (b ++ source).size := by rw [ByteArray.size_append]; omega
    rw [if_pos hb, byteAt_of_lt ha, byteAt_of_lt hb, ByteArray.getElem_append_left hb]
  · rw [if_neg hb]
    by_cases hs : i - b.size < source.size
    · have ha : i < (b ++ source).size := by rw [ByteArray.size_append]; omega
      rw [byteAt_of_lt ha, byteAt_of_lt hs, ByteArray.getElem_append_right (Nat.not_lt.mp hb)]
    · have ha : (b ++ source).size ≤ i := by rw [ByteArray.size_append]; omega
      rw [byteAt_of_le ha, byteAt_of_le (Nat.not_lt.mp hs)]

theorem byteAt_extract {start stop : Nat} (h : stop ≤ b.size) (i : Nat) :
    byteAt (b.extract start stop) i = if start + i < stop then byteAt b (start + i) else 0 := by
  have hsize : (b.extract start stop).size = stop - start := by
    rw [ByteArray.size_extract, Nat.min_eq_left h]
  by_cases hi : start + i < stop
  · have ha : i < (b.extract start stop).size := by omega
    rw [if_pos hi, byteAt_of_lt ha, byteAt_of_lt (Nat.lt_of_lt_of_le hi h),
      ByteArray.getElem_extract]
  · rw [if_neg hi, byteAt_of_le (by omega)]

theorem byteAt_overwrite {offset : Nat} (h : offset + source.size ≤ b.size) (i : Nat) :
    byteAt (overwrite b offset source) i =
      if offset ≤ i ∧ i < offset + source.size then byteAt source (i - offset)
      else byteAt b i := by
  have hover : overwrite b offset source =
      b.extract 0 offset ++ source ++ b.extract (offset + source.size) b.size := by
    simp [overwrite, ByteArray.copySlice_eq_append]
  have hleft : (b.extract 0 offset).size = offset := by
    rw [ByteArray.size_extract]; omega
  rw [hover, byteAt_append, byteAt_append, ByteArray.size_append, hleft,
    byteAt_extract (by omega), byteAt_extract (Nat.le_refl _)]
  by_cases hlow : i < offset
  · rw [if_pos (by omega), if_pos hlow, if_pos (by omega), if_neg (by omega), Nat.zero_add]
  · by_cases hin : i < offset + source.size
    · rw [if_pos hin, if_neg hlow, if_pos ⟨Nat.not_lt.mp hlow, hin⟩]
    · have hsum : offset + source.size + (i - (offset + source.size)) = i := by omega
      have hout : ¬(offset ≤ i ∧ i < offset + source.size) := fun h => hin h.2
      rw [if_neg hin, if_neg hout, hsum]
      split_ifs with hsize
      · rfl
      · rw [byteAt_of_le (Nat.not_lt.mp hsize)]

theorem tabulateOnto_congr {f g : Nat → UInt8} {n i : Nat} (acc : ByteArray)
    (h : ∀ j, i ≤ j → j < i + n → f j = g j) : tabulateOnto f n i acc = tabulateOnto g n i acc := by
  induction n generalizing i acc with
  | zero => rfl
  | succ n ih =>
    rw [tabulateOnto, tabulateOnto, h i (Nat.le_refl i) (by omega)]
    exact ih _ fun j hlow hhigh => h j (by omega) (by omega)

theorem tabulate_congr {f g : Nat → UInt8} {n : Nat} (h : ∀ i < n, f i = g i) :
    tabulate n f = tabulate n g :=
  tabulateOnto_congr _ fun i _ hi => h i (by omega)

theorem byteAt_push (b : ByteArray) (v : UInt8) (i : Nat) :
    byteAt (b.push v) i = if i = b.size then v else byteAt b i := by
  have hpush : b.push v = b ++ (⟨#[v]⟩ : ByteArray) := by
    apply ByteArray.ext
    simp
  rw [hpush, byteAt_append]
  rcases Nat.lt_trichotomy i b.size with hlt | rfl | hgt
  · rw [if_pos hlt, if_neg (Nat.ne_of_lt hlt)]
  · rw [if_neg (Nat.lt_irrefl _), if_pos rfl, Nat.sub_self]
    rfl
  · have hone : (⟨#[v]⟩ : ByteArray).size ≤ i - b.size := by
      change 1 ≤ i - b.size
      omega
    rw [if_neg (by omega), if_neg (by omega), byteAt_of_le hone, byteAt_of_le (by omega)]

/-- By induction on the bytes that are still to come: those that are there stay. -/
theorem byteAt_tabulateOnto (f : Nat → UInt8) (n start : Nat) (acc : ByteArray) (i : Nat) :
    byteAt (tabulateOnto f n start acc) i =
      if acc.size ≤ i ∧ i < acc.size + n then f (start + (i - acc.size)) else byteAt acc i := by
  induction n generalizing start acc with
  | zero => rw [tabulateOnto, if_neg (by omega)]
  | succ n ih =>
    rw [tabulateOnto, ih, ByteArray.size_push, byteAt_push]
    rcases Nat.lt_trichotomy i acc.size with hlt | rfl | hgt
    · rw [if_neg (by omega), if_neg (by omega), if_neg (by omega)]
    · rw [if_neg (by omega), if_pos rfl, if_pos (by omega), Nat.sub_self, Nat.add_zero]
    · by_cases hin : i < acc.size + (n + 1)
      · have hnext : start + 1 + (i - (acc.size + 1)) = start + (i - acc.size) := by omega
        rw [if_pos (by omega), if_pos (by omega), hnext]
      · rw [if_neg (by omega), if_neg (by omega), if_neg (by omega)]

theorem byteAt_tabulate (f : Nat → UInt8) {n i : Nat} (h : i < n) : byteAt (tabulate n f) i = f i := by
  have hin : (ByteArray.empty).size ≤ i ∧ i < (ByteArray.empty).size + n := by
    rw [ByteArray.size_empty]
    omega
  rw [tabulate, byteAt_tabulateOnto, if_pos hin, ByteArray.size_empty, Nat.sub_zero, Nat.zero_add]

theorem zeroFrom?_eq_none_iff {n start : Nat} :
    zeroFrom? b n start = none ↔ ∀ i, start ≤ i → i < start + n → byteAt b i ≠ 0 := by
  induction n generalizing start with
  | zero =>
    have hempty : ∀ i, start ≤ i → i < start + 0 → byteAt b i ≠ 0 := by omega
    exact iff_of_true rfl hempty
  | succ n ih =>
    unfold zeroFrom?
    split_ifs with hz
    · simpa using ⟨start, Nat.le_refl _, by omega, hz⟩
    · rw [ih]
      constructor
      · intro h i hlow hhigh
        rcases Nat.eq_or_lt_of_le hlow with rfl | hlt
        · exact hz
        · exact h i hlt (by omega)
      · exact fun h i hlow hhigh => h i (by omega) (by omega)

/-- The first zero, and none before it. -/
theorem zeroFrom?_eq_some_iff {n start stop : Nat} :
    zeroFrom? b n start = some stop ↔
      (start ≤ stop ∧ stop < start + n) ∧ byteAt b stop = 0 ∧
        ∀ i, start ≤ i → i < stop → byteAt b i ≠ 0 := by
  induction n generalizing start with
  | zero => exact iff_of_false nofun (by omega)
  | succ n ih =>
    unfold zeroFrom?
    split_ifs with hz
    · constructor
      · rintro ⟨⟩
        exact ⟨⟨Nat.le_refl _, by omega⟩, hz, fun i hlow hhigh => by omega⟩
      · rintro ⟨⟨hlow, -⟩, -, hbefore⟩
        rcases Nat.eq_or_lt_of_le hlow with rfl | hlt
        · rfl
        · exact absurd hz (hbefore start (Nat.le_refl _) hlt)
    · rw [ih]
      constructor
      · rintro ⟨⟨hlow, hhigh⟩, hstop, hbefore⟩
        refine ⟨⟨by omega, by omega⟩, hstop, fun i hi hlt => ?_⟩
        rcases Nat.eq_or_lt_of_le hi with rfl | hnext
        · exact hz
        · exact hbefore i hnext hlt
      · rintro ⟨⟨hlow, hhigh⟩, hstop, hbefore⟩
        have hne : start ≠ stop := fun heq => hz (heq ▸ hstop)
        exact ⟨⟨by omega, by omega⟩, hstop, fun i hi => hbefore i (by omega)⟩

end Bytes

namespace Span

variable {size len : Nat} {addr : UInt32}

/-- Some of the addresses lie outside, or 64 bits cannot hold the end of them. -/
def Misses (size : Nat) (addr : UInt32) (len : Nat) : Prop :=
  size < addr.toNat + len ∨ Word.bound ≤ addr.toNat + len

instance : Decidable (Misses size addr len) :=
  inferInstanceAs (Decidable (_ ∨ _))

/-- Where 64 bits count all addresses there are, only the size is of account. -/
theorem misses_iff (h : size < Word.bound) : Misses size addr len ↔ size < addr.toNat + len := by
  unfold Misses
  omega

theorem within_of_le (h : addr.toNat + len ≤ size) (hb : addr.toNat + len < Word.bound) :
    within size addr len = .ok ⟨addr.toNat, addr.toNat + len⟩ := by
  simp only [within, Word.add?, hb, h, if_true]

theorem within_of_lt (h : size < addr.toNat + len) :
    within size addr len = .error (.outOfRange addr.toNat len size) := by
  unfold within Word.add?
  split_ifs with hb
  · exact if_neg (Nat.not_le.mpr h)
  · rfl

theorem within_of_misses (h : Misses size addr len) :
    within size addr len = .error (.outOfRange addr.toNat len size) := by
  rcases h with hsize | hbound
  · exact within_of_lt hsize
  · simp only [within, Word.add?, if_neg (Nat.not_lt.mpr hbound)]

theorem within_of_not_misses (h : ¬Misses size addr len) :
    within size addr len = .ok ⟨addr.toNat, addr.toNat + len⟩ := by
  unfold Misses at h
  exact within_of_le (by omega) (by omega)

theorem not_misses_of_le (h : addr.toNat + len ≤ size) (hb : addr.toNat + len < Word.bound) :
    ¬Misses size addr len := by
  unfold Misses
  omega

theorem size_extract_of_not_misses {b : ByteArray} (h : ¬Misses b.size addr len) :
    (b.extract addr.toNat (addr.toNat + len)).size = len := by
  unfold Misses at h
  rw [ByteArray.size_extract]
  omega

end Span

theorem terminatedText_of_lt {data : ByteArray} {addr : UInt32} (h : data.size < addr.toNat) :
    terminatedText data addr = .error (.outOfRange addr.toNat 1 data.size) :=
  if_pos h

theorem terminatedText_of_unterminated {data : ByteArray} {addr : UInt32}
    (h : addr.toNat ≤ data.size)
    (hnone : ∀ i, addr.toNat ≤ i → i < data.size → Bytes.byteAt data i ≠ 0) :
    terminatedText data addr = .error (.unterminated addr.toNat) := by
  have hz : Bytes.zeroFrom? data (data.size - addr.toNat) addr.toNat = none :=
    Bytes.zeroFrom?_eq_none_iff.mpr fun i hlow hhigh => hnone i hlow (by omega)
  rw [terminatedText, if_neg (Nat.not_lt.mpr h), hz]

/-- A text starts behind the end, or runs into it. -/
theorem terminatedText_error {data : ByteArray} {addr : UInt32} {e : Error}
    (h : terminatedText data addr = .error e) :
    data.size < addr.toNat ∧ e = .outOfRange addr.toNat 1 data.size ∨
      (addr.toNat ≤ data.size ∧ ∀ i, addr.toNat ≤ i → i < data.size → Bytes.byteAt data i ≠ 0) ∧
        e = .unterminated addr.toNat := by
  unfold terminatedText at h
  split_ifs at h with hs
  · exact .inl ⟨hs, (Except.error.inj h).symm⟩
  · cases hz : Bytes.zeroFrom? data (data.size - addr.toNat) addr.toNat with
    | some stop =>
      rw [hz] at h
      cases h
    | none =>
      rw [hz] at h
      have hnone := Bytes.zeroFrom?_eq_none_iff.mp hz
      refine .inr ⟨⟨Nat.le_of_not_lt hs, fun i hlow hhigh => ?_⟩, (Except.error.inj h).symm⟩
      exact hnone i hlow (by omega)

namespace Memory

variable {m : Memory} {addr : UInt32}

theorem read_of_misses {len : Nat} (h : Span.Misses m.size addr len) :
    m.read addr len = .error (.outOfRange addr.toNat len m.size) := by
  rw [read, Span.within_of_misses h]
  rfl

theorem read_of_not_misses {len : Nat} (h : ¬Span.Misses m.size addr len) :
    m.read addr len = .ok (m.bytes.extract addr.toNat (addr.toNat + len)) := by
  rw [read, Span.within_of_not_misses h]
  rfl

theorem read_of_le {len : Nat} (h : addr.toNat + len ≤ m.size)
    (hb : addr.toNat + len < Word.bound) :
    m.read addr len = .ok (m.bytes.extract addr.toNat (addr.toNat + len)) :=
  read_of_not_misses (Span.not_misses_of_le h hb)

theorem read_of_lt {len : Nat} (h : m.size < addr.toNat + len) :
    m.read addr len = .error (.outOfRange addr.toNat len m.size) :=
  read_of_misses (.inl h)

theorem write_of_misses {bytes : ByteArray} (h : Span.Misses m.size addr bytes.size) :
    m.write addr bytes = .error (.outOfRange addr.toNat bytes.size m.size) := by
  rw [write, Span.within_of_misses h]
  rfl

theorem write_of_not_misses {bytes : ByteArray} (h : ¬Span.Misses m.size addr bytes.size) :
    m.write addr bytes = .ok { m with bytes := Bytes.overwrite m.bytes addr.toNat bytes } := by
  rw [write, Span.within_of_not_misses h]
  rfl

theorem write_of_le {bytes : ByteArray} (h : addr.toNat + bytes.size ≤ m.size)
    (hb : addr.toNat + bytes.size < Word.bound) :
    m.write addr bytes = .ok { m with bytes := Bytes.overwrite m.bytes addr.toNat bytes } :=
  write_of_not_misses (Span.not_misses_of_le h hb)

theorem write_of_lt {bytes : ByteArray} (h : m.size < addr.toNat + bytes.size) :
    m.write addr bytes = .error (.outOfRange addr.toNat bytes.size m.size) :=
  write_of_misses (.inl h)

theorem exists_write {bytes : ByteArray} (h : addr.toNat + bytes.size ≤ m.size)
    (hb : addr.toNat + bytes.size < Word.bound) :
    ∃ m' : Memory, m'.size = m.size ∧ m.write addr bytes = .ok m' :=
  ⟨{ m with bytes := Bytes.overwrite m.bytes addr.toNat bytes }, Bytes.size_overwrite h,
    write_of_le h hb⟩

theorem size_of_read {len : Nat} {bytes : ByteArray} (h : m.read addr len = .ok bytes) :
    bytes.size = len := by
  by_cases hm : Span.Misses m.size addr len
  · rw [read_of_misses hm] at h
    cases h
  · rw [read_of_not_misses hm] at h
    cases h
    exact Span.size_extract_of_not_misses hm

theorem misses_of_read_error {len : Nat} {e : Error} (h : m.read addr len = .error e) :
    Span.Misses m.size addr len ∧ e = .outOfRange addr.toNat len m.size := by
  by_cases hm : Span.Misses m.size addr len
  · rw [read_of_misses hm] at h
    exact ⟨hm, (Except.error.inj h).symm⟩
  · rw [read_of_not_misses hm] at h
    cases h

theorem misses_of_write_error {bytes : ByteArray} {e : Error} (h : m.write addr bytes = .error e) :
    Span.Misses m.size addr bytes.size ∧ e = .outOfRange addr.toNat bytes.size m.size := by
  by_cases hm : Span.Misses m.size addr bytes.size
  · rw [write_of_misses hm] at h
    exact ⟨hm, (Except.error.inj h).symm⟩
  · rw [write_of_not_misses hm] at h
    cases h

/-- The memory with these bytes in the place of others. -/
def put (m : Memory) (addr : Nat) (bytes : ByteArray) : Memory :=
  { m with bytes := Bytes.overwrite m.bytes addr bytes }

theorem put_of_write {m' : Memory} {bytes : ByteArray} (h : m.write addr bytes = .ok m') :
    addr.toNat + bytes.size ≤ m.size ∧ m' = m.put addr.toNat bytes := by
  by_cases hm : Span.Misses m.size addr bytes.size
  · rw [write_of_misses hm] at h
    cases h
  · rw [write_of_not_misses hm] at h
    unfold Span.Misses at hm
    exact ⟨by omega, (Except.ok.inj h).symm⟩

theorem size_put {addr : Nat} {bytes : ByteArray} (h : addr + bytes.size ≤ m.size) :
    (m.put addr bytes).size = m.size :=
  Bytes.size_overwrite h

theorem byteAt_put {addr : Nat} {bytes : ByteArray} (h : addr + bytes.size ≤ m.size) (i : Nat) :
    Bytes.byteAt (m.put addr bytes).bytes i =
      if addr ≤ i ∧ i < addr + bytes.size then Bytes.byteAt bytes (i - addr)
      else Bytes.byteAt m.bytes i :=
  Bytes.byteAt_overwrite h i

theorem size_blank (pages : Nat) (maxPages : Option Nat) :
    (blank pages maxPages).size = pages * pageSize :=
  Bytes.size_zeros (pages * pageSize)

end Memory

end GuestHost
