import GuestHost.Proofs.Json.Scalar

/-! Writing JSON by parts: texts one behind the other, keys without escapes, and natural numbers in
decimal. -/
namespace GuestHost.Json

theorem spelled_of_text {t : Token} {w : List Char} (h : TokenText t w) : Spelled [t] w := by
  have hone := Spelled.token h .nil
  rwa [List.append_nil] at hone

/-- By induction on the first text. -/
theorem Spelled.append {ts ts' : List Token} {cs cs' : List Char} (h : Spelled ts cs)
    (h' : Spelled ts' cs') : Spelled (ts ++ ts') (cs ++ cs') := by
  induction h with
  | nil => exact h'
  | blank hc _ ih => exact .blank hc ih
  | token ht _ ih =>
    rw [List.append_assoc]
    exact .token ht ih

/-- The pieces of a text that is written as it is. -/
def plainPieces (cs : List Char) : List Piece :=
  cs.map .char

def IsPlain (cs : List Char) : Prop :=
  ∀ c ∈ cs, ' ' ≤ c ∧ c ≠ '"' ∧ c ≠ '\\'

instance (cs : List Char) : Decidable (IsPlain cs) :=
  List.decidableBAll _ cs

theorem piecesText_plain (cs : List Char) (h : IsPlain cs) : PiecesText (plainPieces cs) cs := by
  induction cs with
  | nil => exact .nil
  | cons c cs ih =>
    obtain ⟨⟨hlow, hquote, hslash⟩, hcs⟩ := List.forall_mem_cons.mp h
    exact .cons (.plain hlow hquote hslash) (ih hcs)

theorem spelled_plain (cs : List Char) (h : IsPlain cs) :
    Spelled [.ofPieces (plainPieces cs)] ('"' :: (cs ++ ['"'])) :=
  spelled_of_text (.quoted (piecesText_plain cs h))

theorem says_plain (cs : List Char) : Says (plainPieces cs) cs := by
  induction cs with
  | nil => exact .nil
  | cons c cs ih => exact .char ih

theorem keyName?_plain (name : String) : keyName? (plainPieces name.toList) = some name :=
  keyName?_eq_some_iff.mpr (says_plain name.toList)

/-- The decimal digits of a number, without zeros in front. -/
def decimals (n : Nat) : List Nat :=
  if n < 10 then [n] else decimals (n / 10) ++ [n % 10]

theorem decimals_ne_nil (n : Nat) : decimals n ≠ [] := by
  rw [decimals]
  split <;> simp

theorem decimals_lt_ten (n : Nat) : ∀ d ∈ decimals n, d < 10 := by
  fun_induction decimals n with
  | case1 n h => simpa using h
  | case2 n h ih =>
    intro d hd
    rcases List.mem_append.mp hd with hd | hd
    · exact ih d hd
    · rw [List.mem_singleton.mp hd]
      exact Nat.mod_lt n (by omega)

theorem natural_decimals (n : Nat) : Numeral.natural (decimals n) = n := by
  fun_induction decimals n with
  | case1 n h => exact Nat.zero_add n
  | case2 n h ih =>
    have hsplit : Numeral.natural (decimals (n / 10) ++ [n % 10]) =
        Numeral.natural (decimals (n / 10)) * 10 + n % 10 := by
      simp [Numeral.natural, List.foldl_append]
    rw [hsplit, ih]
    omega

/-- Only zero begins with a zero. -/
theorem decimals_unpadded (n : Nat) (h : (decimals n).head? = some 0) : decimals n = [0] := by
  fun_induction decimals n with
  | case1 n hn =>
    cases h
    rfl
  | case2 n hn ih =>
    obtain ⟨d, ds, hd⟩ := List.exists_cons_of_ne_nil (decimals_ne_nil (n / 10))
    have hhead : (decimals (n / 10)).head? = some 0 := by
      rw [hd, List.cons_append, List.head?_cons] at h
      rw [hd, List.head?_cons, h]
    have hzero := congrArg Numeral.natural (ih hhead)
    have hval : Numeral.natural [0] = 0 := rfl
    rw [natural_decimals, hval] at hzero
    omega

theorem map_digitChar_decimals (n : Nat) : (decimals n).map Nat.digitChar = Nat.toDigits 10 n := by
  fun_induction decimals n with
  | case1 n h => rw [Nat.toDigits_of_lt_base h, List.map_singleton]
  | case2 n h ih =>
    rw [List.map_append, ih, Nat.toDigits_eq_if (b := 10) (n := n) (by omega), if_neg h,
      List.map_singleton]

/-- A number as it is printed. -/
def Literal.ofNat (n : Nat) : Literal where
  whole := ⟨decimals n, decimals_ne_nil n, decimals_lt_ten n⟩
  unpadded := decimals_unpadded n

theorem spelled_ofNat (n : Nat) : Spelled [.numeral (Literal.ofNat n).numeral] n.repr.toList := by
  have htext : TokenText (.numeral (Literal.ofNat n).numeral) (_ ++ (_ ++ (_ ++ []))) :=
    .numeral .absent
  have hchars : (Literal.ofNat n).whole.text = n.repr.toList := by
    rw [Nat.toList_repr, ← map_digitChar_decimals]
    rfl
  rw [hchars] at htext
  have hword := spelled_of_text htext
  simpa [Literal.signText, Literal.fractionText, Literal.ofNat] using hword

theorem word?_ofNat (w : UInt32) : (Literal.ofNat w.toNat).word? = some w := by
  have hlt : Numeral.natural (Literal.ofNat w.toNat).whole.digits < 0x1_0000_0000 := by
    rw [Literal.ofNat, natural_decimals]
    exact w.toNat_lt
  rw [Literal.word?, if_pos ⟨rfl, hlt⟩, Literal.ofNat, natural_decimals, UInt32.ofNat_toNat]

end GuestHost.Json
