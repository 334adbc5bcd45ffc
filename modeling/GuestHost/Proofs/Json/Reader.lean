import GuestHost.Json.Record
import GuestHost.Proofs.Json.Scalar

/-! Readers of tokens as readers of values: what they make of a written value depends on that value
alone. -/
namespace GuestHost.Json

/-- What a reader makes of a value. -/
def Reader.on {α : Type} (R : Reader α) (v : Value) : Except Fault α :=
  (R v.tokens).map Prod.fst

/-- The reader takes the tokens of a value and looks no further. -/
def Steady {α : Type} (R : Reader α) : Prop :=
  ∀ v ts, R (v.tokens ++ ts) = (Reader.on R v).map (·, ts)

section Readers

variable {α σ : Type} {R : Reader α}

theorem Steady.tokens (h : Steady R) (v : Value) : R v.tokens = (Reader.on R v).map (·, []) := by
  have hv := h v []
  rwa [List.append_nil] at hv

theorem Field.on_of (h : Steady R) (name : String) (set : α → σ → σ) (v : Value) :
    Reader.on (Field.of name R set).read v = (Reader.on R v).map set := by
  unfold Reader.on
  simp only [Field.of, h.tokens]
  cases Reader.on R v with
  | error f => rfl
  | ok a => rfl

theorem Field.on_of_eq_ok_iff (h : Steady R) {name : String} {set : α → σ → σ} {v : Value}
    {change : σ → σ} : Reader.on (Field.of name R set).read v = .ok change ↔
      ∃ a, Reader.on R v = .ok a ∧ set a = change := by
  rw [on_of h, map_eq_ok_iff]

theorem Field.steady_of (h : Steady R) (name : String) (set : α → σ → σ) :
    Steady (Field.of name R set).read := by
  intro v ts
  rw [Field.on_of h]
  simp only [Field.of, h v ts]
  cases Reader.on R v with
  | error f => rfl
  | ok a => rfl

theorem steady_readWord : Steady readWord := by
  intro v ts
  cases v with
  | numeral l =>
    simp only [Reader.on, Value.tokens, List.singleton_append, readWord]
    rcases l.numeral.value with f | i | x
    · rfl
    · dsimp only
      split <;> rfl
    · rfl
  | _ => rfl

theorem readOptionalWord_tokens {v : Value} (h : v ≠ .null) (ts : List Token) :
    readOptionalWord (v.tokens ++ ts) =
      (readWord (v.tokens ++ ts)).map fun (w, rest) => (some w, rest) := by
  cases v with
  | null => exact absurd rfl h
  | _ => rfl

theorem on_readOptionalWord {v : Value} (h : v ≠ .null) :
    Reader.on readOptionalWord v = (Reader.on readWord v).map some := by
  have hread := readOptionalWord_tokens h []
  rw [List.append_nil, steady_readWord.tokens] at hread
  rw [Reader.on, hread, map_map, map_map]

theorem steady_readOptionalWord : Steady readOptionalWord := by
  intro v ts
  by_cases h : v = .null
  · subst h
    rfl
  · rw [readOptionalWord_tokens h, on_readOptionalWord h, steady_readWord v ts, map_map, map_map]

/-- Only the number counts that a literal is read as. -/
theorem on_readWord_numeral (l : Literal) : Reader.on readWord (.numeral l) =
    match l.numeral.value with
    | .error f => .error f
    | .ok (.integer i) =>
      if 0 ≤ i ∧ i < 0x1_0000_0000 then .ok (.ofNat i.toNat)
      else .error (.wrongValue (.integer i) "u32")
    | .ok (.real x) => .error (.wrongType (.real x) "u32") := by
  simp only [Reader.on, Value.tokens, readWord]
  rcases l.numeral.value with f | i | x
  · rfl
  · dsimp only
    split <;> rfl
  · rfl

/-- A word is read from the literals that denote it. -/
theorem toOption_on_readWord_numeral (l : Literal) :
    (Reader.on readWord (.numeral l)).toOption = l.word? := by
  rw [on_readWord_numeral, Literal.word?]
  by_cases h : l.plain = true ∧ Numeral.natural l.whole.digits < 0x1_0000_0000_0000_0000
  · obtain ⟨hplain, hlt⟩ := h
    rw [Literal.value_of_plain hplain hlt]
    by_cases hword : Numeral.natural l.whole.digits < 0x1_0000_0000
    · have hint : 0 ≤ (Numeral.natural l.whole.digits : Int) ∧
          (Numeral.natural l.whole.digits : Int) < 0x1_0000_0000 := by omega
      dsimp only
      rw [if_pos hint, if_pos ⟨hplain, hword⟩, Int.toNat_natCast]
      rfl
    · have hint : ¬(0 ≤ (Numeral.natural l.whole.digits : Int) ∧
          (Numeral.natural l.whole.digits : Int) < 0x1_0000_0000) := by omega
      dsimp only
      rw [if_neg hint, if_neg fun hw => hword hw.2]
      rfl
  · have hleft : l.plain = true → (Numeral.accumulate 0 l.whole.digits).2 ≠ [] := by
      intro hplain
      have hle : 0x1_0000_0000_0000_0000 ≤ Numeral.natural l.whole.digits :=
        Nat.le_of_not_lt fun hlt => h ⟨hplain, hlt⟩
      rw [Numeral.natural] at hle
      exact Numeral.left_of_le (by omega) hle
    have hnone : ¬(l.plain = true ∧ Numeral.natural l.whole.digits < 0x1_0000_0000) := by
      rintro ⟨hplain, hlt⟩
      exact h ⟨hplain, by omega⟩
    rw [if_neg hnone]
    rcases hv : l.numeral.value with f | i | x
    · rfl
    · have hneg := Literal.value_of_not_plain hleft hv
      have hint : ¬(0 ≤ i ∧ i < 0x1_0000_0000) := by omega
      dsimp only
      rw [if_neg hint]
      rfl
    · rfl

theorem toOption_on_readWord (v : Value) : (Reader.on readWord v).toOption = v.word? := by
  cases v with
  | numeral l => exact toOption_on_readWord_numeral l
  | _ => rfl

theorem optionalWord?_of_ne {v : Value} (h : v ≠ .null) : v.optionalWord? = v.word?.map some := by
  cases v with
  | null => exact absurd rfl h
  | _ => rfl

theorem toOption_on_readOptionalWord (v : Value) :
    (Reader.on readOptionalWord v).toOption = v.optionalWord? := by
  by_cases h : v = .null
  · subst h
    rfl
  · rw [on_readOptionalWord h, optionalWord?_of_ne h, ← toOption_on_readWord]
    cases Reader.on readWord v with
    | error f => rfl
    | ok w => rfl

end Readers

end GuestHost.Json
