import GuestHost.Proofs.Json.Value
import Mathlib.Tactic.IntervalCases

/-! The scanner finds the tokens of every text that is written by the grammar. Only numerals need an
end of their own: a comma, a bracket, a brace or a blank. -/
namespace GuestHost.Json

/-- What can stand behind a numeral. -/
def delimiters : List Char :=
  [' ', '\t', '\n', '\r', ',', ']', '\x7d']

def Delimited (cs : List Char) : Prop :=
  ∀ c ∈ cs.head?, c ∈ delimiters

theorem delimited_cons {c : Char} (h : c ∈ delimiters) (cs : List Char) : Delimited (c :: cs) := by
  intro c' hc'
  rw [List.head?_cons] at hc'
  cases hc'
  exact h

namespace Numeral

theorem isDigit_digitChar {d : Nat} (h : d < 10) : isDigit d.digitChar = true := by
  interval_cases d <;> rfl

theorem toNat_digitChar {d : Nat} (h : d < 10) : d.digitChar.toNat - '0'.toNat = d := by
  interval_cases d <;> rfl

theorem isDigit_of_mem_text {ds : Digits} {c : Char} (h : c ∈ ds.text) : isDigit c = true := by
  obtain ⟨d, hd, rfl⟩ := List.mem_map.mp h
  exact isDigit_digitChar (ds.lt_ten d hd)

theorem text_eq_cons (ds : Digits) : ∃ c cs, ds.text = c :: cs ∧ isDigit c = true := by
  obtain ⟨d, tail, hd⟩ := List.exists_cons_of_ne_nil ds.nonempty
  have htext : ds.text = d.digitChar :: tail.map Nat.digitChar := by
    rw [Digits.text, hd, List.map_cons]
  have hmem : d.digitChar ∈ ds.text := by
    rw [htext]
    exact List.mem_cons_self
  exact ⟨_, _, htext, isDigit_of_mem_text hmem⟩

/-- No digit comes next. -/
def Stops (cs : List Char) : Prop :=
  ∀ c ∈ cs.head?, isDigit c = false

variable (ds : Digits) {cs : List Char}

theorem digits_text_append (h : Stops cs) : digits (ds.text ++ cs) = ds.digits := by
  have hcs : cs.takeWhile isDigit = [] := by
    cases cs with
    | nil => rfl
    | cons c cs => simp [h c rfl]
  rw [digits, List.takeWhile_append_of_pos fun c => isDigit_of_mem_text, hcs, List.append_nil,
    Digits.text, List.map_map]
  conv_rhs => rw [← List.map_id ds.digits]
  exact List.map_congr_left fun d hd => toNat_digitChar (ds.lt_ten d hd)

theorem afterDigits_text_append (h : Stops cs) : afterDigits (ds.text ++ cs) = cs := by
  rw [afterDigits, List.dropWhile_append_of_pos fun c => isDigit_of_mem_text]
  cases cs with
  | nil => rfl
  | cons c cs => simp [h c rfl]

theorem stops_of_delimited (h : Delimited cs) : Stops cs := by
  have hall : ∀ c ∈ delimiters, isDigit c = false := by simp [delimiters, isDigit]
  exact fun c hc => hall c (h c hc)

theorem isEmpty_digits (ds : Digits) : ds.digits.isEmpty = false :=
  List.isEmpty_eq_false_iff.mpr ds.nonempty

/-- A sign is no digit, so that the digits start where it ends. -/
theorem scanPower_text (n : Numeral) {down : Bool} {sign : List Char} (hs : PowerSign down sign)
    (h : Stops cs) : scanPower n (sign ++ (ds.text ++ cs)) =
      (⟨n.negative, n.whole, n.fraction, n.hasFraction, some (down, ds.digits), none⟩, cs) := by
  have hdigits := digits_text_append ds h
  have hafter := afterDigits_text_append ds h
  cases hs with
  | plus => simp [scanPower, hdigits, hafter, ds.nonempty]
  | minus => simp [scanPower, hdigits, hafter, ds.nonempty]
  | none =>
    obtain ⟨c, tail, htext, hc⟩ := text_eq_cons ds
    have hplus : c ≠ '+' := by
      rintro rfl
      cases hc
    have hminus : c ≠ '-' := by
      rintro rfl
      cases hc
    rw [htext] at hdigits hafter ⊢
    simp [scanPower, hplus, hminus, hdigits, hafter, ds.nonempty] at hdigits hafter ⊢

/-- What is left out of a literal must not seem to begin behind it. -/
theorem head_ne_of_delimited (h : Delimited cs) :
    cs.head? ≠ some '.' ∧ cs.head? ≠ some 'e' ∧ cs.head? ≠ some 'E' := by
  have hall : ∀ c ∈ delimiters, c ≠ '.' ∧ c ≠ 'e' ∧ c ≠ 'E' := by simp [delimiters]
  refine ⟨?_, ?_, ?_⟩ <;> intro hc
  · exact (hall _ (h _ hc)).1 rfl
  · exact (hall _ (h _ hc)).2.1 rfl
  · exact (hall _ (h _ hc)).2.2 rfl

theorem scanExponent_text {exponent : Option (Bool × Digits)} {w : List Char}
    (hw : ExponentText exponent w) {n : Numeral} (hn : n.exponent = none) (hf : n.fault = none)
    (h : Delimited cs) : scanExponent n (w ++ cs) = (⟨n.negative, n.whole, n.fraction,
      n.hasFraction, exponent.map fun (down, ds) => (down, ds.digits), none⟩, cs) := by
  cases hw with
  | absent =>
    have hkeep : scanExponent n cs = (n, cs) := by
      obtain ⟨-, he, hE⟩ := head_ne_of_delimited h
      unfold scanExponent
      split
      · exact absurd rfl he
      · exact absurd rfl hE
      · rfl
    rw [List.nil_append, hkeep, Option.map_none, ← hn, ← hf]
  | @present e down sign ds he hs =>
    have hpower := scanPower_text ds n hs (stops_of_delimited h)
    rw [List.cons_append, List.append_assoc]
    rcases he with rfl | rfl
    · exact hpower
    · exact hpower

/-- The exponent begins with a letter, if there is one. -/
theorem stops_of_exponentText {exponent : Option (Bool × Digits)} {w : List Char}
    (hw : ExponentText exponent w) (h : Delimited cs) :
    Stops (w ++ cs) ∧ (w ++ cs).head? ≠ some '.' := by
  cases hw with
  | absent => exact ⟨stops_of_delimited h, (head_ne_of_delimited h).1⟩
  | present he hs =>
    rw [List.cons_append]
    rcases he with rfl | rfl
    · exact ⟨by simp [Stops, isDigit], by simp⟩
    · exact ⟨by simp [Stops, isDigit], by simp⟩

theorem scanFraction_text {l : Literal} {w : List Char} (hw : ExponentText l.exponent w)
    (h : Delimited cs) : scanFraction ⟨l.negative, l.whole.digits, [], false, none, none⟩
      (l.fractionText ++ (w ++ cs)) = (l.numeral, cs) := by
  obtain ⟨hstops, hpoint⟩ := stops_of_exponentText hw h
  cases hf : l.fraction with
  | none =>
    have hnumeral : l.numeral = ⟨l.negative, l.whole.digits, [], false,
        l.exponent.map fun (down, ds) => (down, ds.digits), none⟩ := by
      simp [Literal.numeral, hf]
    rw [Literal.fractionText, hf, List.nil_append, hnumeral]
    unfold scanFraction
    split
    · next hcs =>
      rw [hcs] at hpoint
      exact absurd rfl hpoint
    · exact scanExponent_text hw rfl rfl h
  | some ds =>
    have hnumeral : l.numeral = ⟨l.negative, l.whole.digits, ds.digits, true,
        l.exponent.map fun (down, ds) => (down, ds.digits), none⟩ := by
      simp [Literal.numeral, hf]
    rw [Literal.fractionText, hf, hnumeral, List.cons_append]
    simp only [scanFraction, digits_text_append _ hstops, afterDigits_text_append _ hstops,
      isEmpty_digits, Bool.false_eq_true, if_false]
    exact scanExponent_text hw rfl rfl h

/-- A point is no digit either. -/
theorem stops_of_fractionText {l : Literal} {w : List Char} (hw : ExponentText l.exponent w)
    (h : Delimited cs) : Stops (l.fractionText ++ (w ++ cs)) := by
  cases hf : l.fraction with
  | none =>
    rw [Literal.fractionText, hf]
    exact (stops_of_exponentText hw h).1
  | some ds =>
    rw [Literal.fractionText, hf]
    simp [Stops, isDigit]

theorem scan_text {l : Literal} {w : List Char} (hw : ExponentText l.exponent w)
    (h : Delimited cs) :
    scan l.negative (l.whole.text ++ (l.fractionText ++ (w ++ cs))) = (l.numeral, cs) := by
  have hstops := stops_of_fractionText hw h
  have hrest := scanFraction_text hw h
  unfold scan
  simp only [digits_text_append _ hstops, afterDigits_text_append _ hstops]
  split
  · next hnone => exact absurd hnone l.whole.nonempty
  · next hzero =>
    have hpadded := l.unpadded (by rw [hzero]; rfl)
    simp [hzero] at hpadded
  · exact hrest

end Numeral

namespace Quoted

theorem hexDigit?_of_hexText {d : Nat} {c : Char} (h : HexText d c) : hexDigit? c = some d := by
  have hlower : ∀ d < 16, hexDigit? d.digitChar = some d := by decide
  have hupper : ∀ d < 16, hexDigit? d.digitChar.toUpper = some d := by decide
  cases h with
  | lower hd => exact hlower d hd
  | upper hd => exact hupper d hd

theorem code?_of_hexText {a b c d : Nat} {a' b' c' d' : Char} (ha : HexText a a')
    (hb : HexText b b') (hc : HexText c c') (hd : HexText d d') :
    code? a' b' c' d' = some (((a * 16 + b) * 16 + c) * 16 + d) := by
  simp [code?, hexDigit?_of_hexText ha, hexDigit?_of_hexText hb, hexDigit?_of_hexText hc,
    hexDigit?_of_hexText hd]

theorem scan_piece {p : Piece} {w : List Char} (h : PieceText p w) (cs : List Char) :
    scan (w ++ cs) = push p (scan cs) := by
  cases h with
  | plain hc hquote hslash =>
    have hlow := Char.not_lt.mpr hc
    rw [List.singleton_append, scan]
    · rw [if_neg hlow]
    all_goals simp [hquote, hslash]
  | escape he =>
    simp only [escapes, List.mem_cons, List.not_mem_nil, or_false, Prod.mk.injEq] at he
    rcases he with ⟨rfl, rfl⟩ | ⟨rfl, rfl⟩ | ⟨rfl, rfl⟩ | ⟨rfl, rfl⟩ | ⟨rfl, rfl⟩ | ⟨rfl, rfl⟩ |
      ⟨rfl, rfl⟩ | ⟨rfl, rfl⟩ <;> rfl
  | code ha hb hc hd =>
    simp only [List.cons_append, List.nil_append, scan, code?_of_hexText ha hb hc hd]

/-- By induction on the pieces, up to the closing quote. -/
theorem scan_pieces {ps : List Piece} {w : List Char} (h : PiecesText ps w) (cs : List Char) :
    scan (w ++ '"' :: cs) = (⟨ps, none⟩, cs) := by
  induction h with
  | nil => rfl
  | cons hp _ ih =>
    rw [List.append_assoc, scan_piece hp, ih]
    rfl

end Quoted

namespace Token

/-- A value or its enclosure ends here. -/
def Closes (ts : List Token) : Prop :=
  ∀ t ∈ ts.head?, t = .comma ∨ t = .closeList ∨ t = .closeObject

/-- Each numeral is followed by the end of something. -/
def Separated : List Token → Prop
  | [] => True
  | .numeral _ :: ts => Closes ts ∧ Separated ts
  | _ :: ts => Separated ts

theorem closes_cons {t : Token} (h : t = .comma ∨ t = .closeList ∨ t = .closeObject)
    (ts : List Token) : Closes (t :: ts) := by
  intro t' ht'
  rw [List.head?_cons] at ht'
  cases ht'
  exact h

theorem separated_of_cons {t : Token} {ts : List Token} (h : Separated (t :: ts)) :
    Separated ts := by
  cases t with
  | numeral n => exact h.2
  | _ => exact h

variable {t : Token} {ts : List Token} {cs w : List Char}

theorem delimited_of_spelled (h : Spelled ts cs) (hts : Closes ts) : Delimited cs := by
  cases h with
  | nil => exact nofun
  | blank hc _ =>
    have hblanks : ∀ c ∈ [' ', '\t', '\n', '\r'], c ∈ delimiters := by simp [delimiters]
    exact delimited_cons (hblanks _ hc) _
  | token ht _ =>
    rcases hts _ rfl with rfl | rfl | rfl <;> cases ht <;> exact delimited_cons (by decide) _

theorem scanFrom_digit {c : Char} (hc : Numeral.isDigit c = true) (cs : List Char) :
    scanFrom c cs = (.numeral (Numeral.scan false (c :: cs)).1, (Numeral.scan false (c :: cs)).2) := by
  unfold scanFrom
  split <;> first | cases hc | simp only [hc, if_true]

theorem isBlank_of_isDigit {c : Char} (hc : Numeral.isDigit c = true) : isBlank c = false := by
  cases hb : isBlank c with
  | false => rfl
  | true =>
    simp only [isBlank, Bool.or_eq_true, beq_iff_eq] at hb
    rcases hb with ((rfl | rfl) | rfl) | rfl <;> cases hc

/-- A numeral begins with its sign or with a digit. -/
theorem scanFrom_numeral {l : Literal} (hw : ExponentText l.exponent w) (h : Delimited cs) :
    ∃ c cs', l.signText ++ (l.whole.text ++ (l.fractionText ++ (w ++ cs))) = c :: cs' ∧
      isBlank c = false ∧ scanFrom c cs' = (.numeral l.numeral, cs) := by
  have hscan := Numeral.scan_text hw h
  cases hn : l.negative with
  | true =>
    rw [hn] at hscan
    refine ⟨'-', l.whole.text ++ (l.fractionText ++ (w ++ cs)), ?_, rfl, ?_⟩
    · rw [Literal.signText, hn]
      rfl
    · simp only [scanFrom, hscan]
  | false =>
    obtain ⟨c, tail, htext, hc⟩ := Numeral.text_eq_cons l.whole
    rw [hn, htext, List.cons_append] at hscan
    refine ⟨c, tail ++ (l.fractionText ++ (w ++ cs)), ?_, isBlank_of_isDigit hc, ?_⟩
    · rw [Literal.signText, hn, htext]
      rfl
    · rw [scanFrom_digit hc, hscan]

/-- The scanner takes exactly one token off the text. -/
theorem scanFrom_text (h : TokenText t w) (hcs : ∀ n, t = .numeral n → Delimited cs) :
    ∃ c cs', w ++ cs = c :: cs' ∧ isBlank c = false ∧ scanFrom c cs' = (t, cs) := by
  cases h with
  | quoted hp =>
    refine ⟨'"', _, rfl, rfl, ?_⟩
    have hscan := Quoted.scan_pieces hp cs
    rw [List.append_eq, List.append_assoc, List.singleton_append]
    simp only [scanFrom, hscan, ofPieces]
  | numeral hw =>
    simp only [List.append_assoc]
    exact scanFrom_numeral hw (hcs _ rfl)
  | _ => exact ⟨_, _, rfl, rfl, rfl⟩

/-- By induction on the text: a blank is passed over, a token is found. -/
theorem scan_of_spelled (h : Spelled ts cs) (hts : Separated ts) : scan cs = ts := by
  induction h with
  | nil => exact scan.eq_1
  | @blank c ts cs hc _ ih =>
    have hblank : ∀ c ∈ [' ', '\t', '\n', '\r'], isBlank c = true := by simp [isBlank]
    rw [scan, if_pos (hblank c hc), ih hts]
  | @token t ts w cs ht hrest ih =>
    have hcs : ∀ n, t = .numeral n → Delimited cs := by
      rintro n rfl
      exact delimited_of_spelled hrest hts.1
    obtain ⟨c, cs', hcons, hblank, hfrom⟩ := scanFrom_text ht hcs
    rw [hcons, scan, hblank, if_neg Bool.false_ne_true, hfrom, ih (separated_of_cons hts)]

end Token

namespace Value

open Token

mutual

theorem separated_tokens {ts : List Token} (hs : Separated ts) (hc : Closes ts) :
    ∀ v : Value, Separated (v.tokens ++ ts)
  | null => hs
  | boolean _ => hs
  | numeral _ => ⟨hc, hs⟩
  | text _ => hs
  | list vs => separated_items hs true vs
  | object ms => separated_members hs true ms

/-- Behind an item the next token is a comma or a bracket. -/
theorem separated_items {ts : List Token} (hs : Separated ts) (first : Bool) :
    ∀ vs : List Value, Separated (itemTokens first vs ++ ts)
  | [] => hs
  | v :: vs => by
    have hrest := separated_items hs false vs
    have hcloses : Closes (itemTokens false vs ++ ts) := by
      cases vs <;> exact closes_cons (by simp) _
    have hv := separated_tokens hrest hcloses v
    rw [itemTokens, List.append_assoc, List.append_assoc]
    cases first <;> exact hv

theorem separated_members {ts : List Token} (hs : Separated ts) (first : Bool) :
    ∀ ms : Members, Separated (memberTokens first ms ++ ts)
  | [] => hs
  | (k, v) :: ms => by
    have hrest := separated_members hs false ms
    have hcloses : Closes (memberTokens false ms ++ ts) := by
      cases ms <;> exact closes_cons (by simp) _
    have hv := separated_tokens hrest hcloses v
    rw [memberTokens]
    simp only [List.append_assoc, List.cons_append]
    cases first <;> exact hv

end

/-- Whatever its blanks and escapes are, the text has the tokens of its value. -/
theorem scan_of_written {v : Value} {text : String} (h : v.Written text) :
    Token.scan text.toList = v.tokens := by
  have hnil : Separated [] := trivial
  have hsep := separated_tokens hnil nofun v
  rw [List.append_nil] at hsep
  exact scan_of_spelled h hsep

end Value

end GuestHost.Json
