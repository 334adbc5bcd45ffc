import GuestHost.Proofs.Json.Value

/-! The texts that keys stand for, and the numbers that words are read from. -/
namespace GuestHost.Json

/-- Codes stand for themselves, but surrogates come in pairs, the leading one first. -/
inductive Says : List Piece → List Char → Prop where
  | nil : Says [] []
  | char {c ps cs} : Says ps cs → Says (.char c :: ps) (c :: cs)
  | code {u ps cs} : u < 0xd800 ∨ 0xdfff < u → Says ps cs → Says (.code u :: ps) (.ofNat u :: cs)
  | pair {u v ps cs} : 0xd800 ≤ u → u ≤ 0xdbff → 0xdc00 ≤ v → v ≤ 0xdfff → Says ps cs →
      Says (.code u :: .code v :: ps) (.ofNat (0x10000 + (u - 0xd800) * 0x400 + (v - 0xdc00)) :: cs)

theorem map_eq_ok_iff {ε α β : Type} {f : α → β} {x : Except ε α} {b : β} :
    x.map f = .ok b ↔ ∃ a, x = .ok a ∧ f a = b := by
  cases x <;> simp [Except.map]

theorem map_map {ε α β γ : Type} (f : α → β) (g : β → γ) (x : Except ε α) :
    (x.map f).map g = x.map fun a => g (f a) := by
  cases x <;> rfl

namespace Quoted

theorem isTrailing_iff {u : Nat} : isTrailing u = true ↔ 0xdc00 ≤ u ∧ u ≤ 0xdfff := by
  simp [isTrailing]

theorem isLeading_iff {u : Nat} : isLeading u = true ↔ 0xd800 ≤ u ∧ u ≤ 0xdbff := by
  simp [isLeading]

theorem decode_of_says {ps : List Piece} {cs : List Char} (h : Says ps cs) :
    decode none ps = .ok cs := by
  induction h with
  | nil => rfl
  | char _ ih =>
    rw [decode, ih]
    rfl
  | @code u ps cs hu _ ih =>
    have htrailing : ¬isTrailing u = true := by
      rw [isTrailing_iff]
      omega
    have hleading : ¬isLeading u = true := by
      rw [isLeading_iff]
      omega
    unfold decode
    rw [if_neg htrailing, if_neg hleading, ih]
    rfl
  | @pair u v ps cs hu hu' hv hv' _ ih =>
    have htrailing : ¬isTrailing u = true := by
      rw [isTrailing_iff]
      omega
    have hleading := isLeading_iff.mpr ⟨hu, hu'⟩
    have htrailing' := isTrailing_iff.mpr ⟨hv, hv'⟩
    unfold decode
    simp only [htrailing, hleading, htrailing', if_true, Bool.false_eq_true, if_false, ih]
    rfl

theorem says_of_decode {ps : List Piece} {cs : List Char} (h : decode none ps = .ok cs) :
    Says ps cs := by
  fun_induction decode none ps generalizing cs with
  | case2 =>
    cases h
    exact .nil
  | case3 c ps ih =>
    obtain ⟨cs', hcs', rfl⟩ := map_eq_ok_iff.mp h
    exact .char (ih hcs')
  | case6 u htrailing hleading v ps hv ih =>
    obtain ⟨cs', hcs', rfl⟩ := map_eq_ok_iff.mp h
    obtain ⟨hu, hu'⟩ := isLeading_iff.mp hleading
    obtain ⟨hv, hv'⟩ := isTrailing_iff.mp hv
    exact .pair hu hu' hv hv' (ih hcs')
  | case9 u ps htrailing hleading ih =>
    obtain ⟨cs', hcs', rfl⟩ := map_eq_ok_iff.mp h
    rw [isTrailing_iff] at htrailing
    rw [isLeading_iff] at hleading
    exact .code (by omega) (ih hcs')
  | _ => cases h

theorem decode_eq_ok_iff {ps : List Piece} {cs : List Char} :
    decode none ps = .ok cs ↔ Says ps cs :=
  ⟨says_of_decode, decode_of_says⟩

end Quoted

/-- The text that a key stands for. Surrogates without a partner stand for none. -/
def keyName? (k : List Piece) : Option String :=
  (Quoted.text ⟨k, none⟩).toOption

theorem keyName?_eq_some_iff {k : List Piece} {name : String} :
    keyName? k = some name ↔ Says k name.toList := by
  rw [← Quoted.decode_eq_ok_iff, keyName?, Quoted.text]
  cases Quoted.decode none k with
  | error f => simp [Except.map, Except.toOption]
  | ok cs =>
    have hlist : String.ofList cs = name ↔ cs = name.toList := by
      constructor
      · rintro rfl
        exact String.toList_ofList.symm
      · rintro rfl
        exact String.ofList_toList
    simp [Except.map, Except.toOption, hlist]

namespace Numeral

theorem le_foldl (s : Nat) (ds : List Nat) : s ≤ ds.foldl (fun n d => n * 10 + d) s := by
  induction ds generalizing s with
  | nil => exact Nat.le_refl s
  | cons d ds ih =>
    have hstep := ih (s * 10 + d)
    rw [List.foldl_cons]
    omega

/-- Either all digits fit into 64 bits or some are left over. -/
theorem accumulate_of_lt {s : Nat} {ds : List Nat}
    (h : ds.foldl (fun n d => n * 10 + d) s < 0x1_0000_0000_0000_0000) :
    accumulate s ds = (ds.foldl (fun n d => n * 10 + d) s, []) := by
  induction ds generalizing s with
  | nil => rfl
  | cons d ds ih =>
    have hle := le_foldl (s * 10 + d) ds
    rw [List.foldl_cons] at h ⊢
    rw [accumulate, if_pos (by omega), ih h]

theorem left_of_le {s : Nat} {ds : List Nat} (hs : s < 0x1_0000_0000_0000_0000)
    (h : 0x1_0000_0000_0000_0000 ≤ ds.foldl (fun n d => n * 10 + d) s) :
    (accumulate s ds).2 ≠ [] := by
  induction ds generalizing s with
  | nil =>
    rw [List.foldl_nil] at h
    omega
  | cons d ds ih =>
    rw [List.foldl_cons] at h
    rw [accumulate]
    split
    · next hlt => exact ih hlt h
    · exact List.cons_ne_nil d ds

end Numeral

/-- A literal without sign, fraction and exponent. -/
def Literal.plain (l : Literal) : Bool :=
  !l.negative && l.fraction.isNone && l.exponent.isNone

/-- The word that a literal denotes, if it does: digits and nothing else, below two to the 32. -/
def Literal.word? (l : Literal) : Option UInt32 :=
  if l.plain ∧ Numeral.natural l.whole.digits < 0x1_0000_0000 then
    some (.ofNat (Numeral.natural l.whole.digits))
  else none

def Value.word? : Value → Option UInt32
  | .numeral l => l.word?
  | _ => none

/-- A word, or null for none. -/
def Value.optionalWord? : Value → Option (Option UInt32)
  | .null => some none
  | v => v.word?.map some

namespace Literal

variable {l : Literal}

theorem value_of_plain (hp : l.plain = true)
    (hs : Numeral.natural l.whole.digits < 0x1_0000_0000_0000_0000) :
    l.numeral.value = .ok (.integer (Numeral.natural l.whole.digits)) := by
  have hall : Numeral.accumulate 0 l.whole.digits = (Numeral.natural l.whole.digits, []) :=
    Numeral.accumulate_of_lt hs
  simp only [plain, Bool.and_eq_true, Bool.not_eq_true', Option.isNone_iff_eq_none] at hp
  obtain ⟨⟨hneg, hfrac⟩, hexp⟩ := hp
  simp [Numeral.value, numeral, hall, hneg, hfrac, hexp]

theorem real_ne_integer {negative : Bool} {x : Except Fault Float} {i : Int} :
    x.map (Numeral.real negative) ≠ .ok (.integer i) := by
  intro h
  obtain ⟨f, -, hf⟩ := map_eq_ok_iff.mp h
  cases hf

/-- What is signed is no positive integer; what has a fraction, an exponent or too many digits is no
integer at all. -/
theorem value_of_not_plain (h : l.plain = true → (Numeral.accumulate 0 l.whole.digits).2 ≠ [])
    {i : Int} (hv : l.numeral.value = .ok (.integer i)) : i < 0 := by
  have hfault : l.numeral.fault = none := rfl
  unfold Numeral.value at hv
  rw [hfault] at hv
  dsimp only at hv
  split at hv
  · next hwhole =>
    simp only [Bool.and_eq_true, Bool.not_eq_true', List.isEmpty_iff] at hwhole
    obtain ⟨⟨hfrac, hexp⟩, hleft⟩ := hwhole
    cases hneg : l.negative with
    | false =>
      have hplain : l.plain = true := by
        simp_all [plain, numeral]
      exact absurd hleft (h hplain)
    | true =>
      have hsign : l.numeral.negative = true := hneg
      rw [hsign] at hv
      simp only [Bool.not_true, Bool.false_eq_true, if_false] at hv
      split at hv
      · cases hv
        omega
      · cases hv
  · split at hv
    · exact absurd hv real_ne_integer
    · split at hv
      · split at hv <;> cases hv
      · exact absurd hv real_ne_integer

end Literal

end GuestHost.Json
