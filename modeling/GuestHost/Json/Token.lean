import GuestHost.Json.Quoted
import GuestHost.Json.Numeral

/-! The tokens of a JSON text. Text that is no token stays in the list, for its reader to refuse. -/
namespace GuestHost.Json

/-- A broken word begins like `null`, `true` or `false` and goes on otherwise. -/
inductive Token where
  | openObject
  | closeObject
  | openList
  | closeList
  | colon
  | comma
  | null
  | boolean (b : Bool)
  | brokenWord (f : Fault)
  | numeral (n : Numeral)
  | quoted (q : Quoted)
  | stray
  deriving DecidableEq

namespace Token

def isBlank (c : Char) : Bool :=
  c == ' ' || c == '\n' || c == '\t' || c == '\r'

/-- Expects the letters of `word`. -/
def scanWord (t : Token) : (word : List Char) → List Char → Token × List Char
  | [], cs => (t, cs)
  | _ :: _, [] => (.brokenWord .ended, [])
  | w :: word, c :: cs => if c = w then scanWord t word cs else (.brokenWord .malformed, [])

/-- The token that begins with `c`. -/
def scanFrom (c : Char) (cs : List Char) : Token × List Char :=
  match c with
  | '\x7b' => (.openObject, cs)
  | '\x7d' => (.closeObject, cs)
  | '[' => (.openList, cs)
  | ']' => (.closeList, cs)
  | ':' => (.colon, cs)
  | ',' => (.comma, cs)
  | 'n' => scanWord .null ['u', 'l', 'l'] cs
  | 't' => scanWord (.boolean true) ['r', 'u', 'e'] cs
  | 'f' => scanWord (.boolean false) ['a', 'l', 's', 'e'] cs
  | '"' => let (q, rest) := Quoted.scan cs; (.quoted q, rest)
  | '-' => let (n, rest) := Numeral.scan true cs; (.numeral n, rest)
  | c =>
    if Numeral.isDigit c then let (n, rest) := Numeral.scan false (c :: cs); (.numeral n, rest)
    else (.stray, [])

theorem length_scanWord_le (t : Token) (word cs : List Char) :
    (scanWord t word cs).2.length ≤ cs.length := by
  induction word generalizing cs with
  | nil => exact Nat.le_refl _
  | cons w word ih =>
    cases cs with
    | nil => exact Nat.le_refl _
    | cons c cs =>
      rw [scanWord]
      split
      · exact Nat.le_trans (ih cs) (Nat.le_succ _)
      · exact Nat.zero_le _

theorem length_afterDigits_cons_le {c : Char} (h : Numeral.isDigit c) (cs : List Char) :
    (Numeral.afterDigits (c :: cs)).length ≤ cs.length := by
  rw [Numeral.afterDigits, List.dropWhile_cons_of_pos h]
  exact Numeral.length_afterDigits_le cs

theorem length_scan_cons_le {c : Char} (h : Numeral.isDigit c) (cs : List Char) :
    (Numeral.scan false (c :: cs)).2.length ≤ cs.length := by
  unfold Numeral.scan
  dsimp only
  split
  · exact Nat.zero_le _
  · exact Nat.zero_le _
  · exact Nat.le_trans (Numeral.length_scanFraction_le _ _) (length_afterDigits_cons_le h cs)

theorem length_scanFrom_le (c : Char) (cs : List Char) :
    (scanFrom c cs).2.length ≤ cs.length := by
  unfold scanFrom
  split <;> try exact Nat.le_refl _
  · exact length_scanWord_le _ _ _
  · exact length_scanWord_le _ _ _
  · exact length_scanWord_le _ _ _
  · exact Quoted.length_scan_le cs
  · exact Numeral.length_scan_le true cs
  · split
    · rename_i h
      exact length_scan_cons_le h cs
    · exact Nat.zero_le _

/-- All tokens of a text. -/
def scan : List Char → List Token
  | [] => []
  | c :: cs =>
    if isBlank c then scan cs
    else (scanFrom c cs).1 :: scan (scanFrom c cs).2
termination_by cs => cs.length
decreasing_by
  · simp
  · exact Nat.lt_succ_of_le (length_scanFrom_le c cs)

/-- The fault of a value that stands where `expected` should stand. -/
def mismatch (expected : String) : Token → Fault
  | .null => .wrongType .null expected
  | .boolean b => .wrongType (.boolean b) expected
  | .brokenWord f => f
  | .numeral n => match n.value with
    | .error f => f
    | .ok v => .wrongType v.found expected
  | .quoted q => match q.text with
    | .error f => f
    | .ok s => .wrongType (.text s) expected
  | .openList => .wrongType .list expected
  | .openObject => .wrongType .object expected
  | _ => .malformed

end Token

end GuestHost.Json
