import GuestHost.Json.Token

/-! JSON as its grammar has it: values, and the texts that write them down, whatever their blanks,
escapes and digits. -/
namespace GuestHost.Json

/-- Decimal digits, one at least. -/
structure Digits where
  digits : List Nat
  nonempty : digits ≠ []
  lt_ten : ∀ d ∈ digits, d < 10

/-- A number as it is written. Before the point a zero stands alone. -/
structure Literal where
  negative : Bool := false
  whole : Digits
  fraction : Option Digits := none
  /-- The sign, true for a minus, and the digits. -/
  exponent : Option (Bool × Digits) := none
  unpadded : whole.digits.head? = some 0 → whole.digits = [0]

/-- The numeral that a literal is read as. -/
def Literal.numeral (l : Literal) : Numeral where
  negative := l.negative
  whole := l.whole.digits
  fraction := (l.fraction.map Digits.digits).getD []
  hasFraction := l.fraction.isSome
  exponent := l.exponent.map fun (down, ds) => (down, ds.digits)

/-- Strings are kept as they are written, and so are the keys of objects, in their order. -/
inductive Value where
  | null
  | boolean (b : Bool)
  | numeral (l : Literal)
  | text (ps : List Piece)
  | list (vs : List Value)
  | object (ms : List (List Piece × Value))

abbrev Members := List (List Piece × Value)

def Token.ofPieces (ps : List Piece) : Token :=
  .quoted ⟨ps, none⟩

def separator (first : Bool) : List Token :=
  if first then [] else [.comma]

namespace Value

mutual

/-- The tokens of a value. -/
def tokens : Value → List Token
  | null => [.null]
  | boolean b => [.boolean b]
  | numeral l => [.numeral l.numeral]
  | text ps => [.ofPieces ps]
  | list vs => .openList :: itemTokens true vs
  | object ms => .openObject :: memberTokens true ms

/-- From the first item on, with the bracket that closes the list. -/
def itemTokens (first : Bool) : List Value → List Token
  | [] => [.closeList]
  | v :: vs => separator first ++ (v.tokens ++ itemTokens false vs)

/-- From the first member on, with the brace that closes the object. -/
def memberTokens (first : Bool) : List (List Piece × Value) → List Token
  | [] => [.closeObject]
  | (k, v) :: ms => separator first ++ (.ofPieces k :: .colon :: (v.tokens ++ memberTokens false ms))

end

end Value

/-- A hexadecimal digit, in either case. -/
inductive HexText (d : Nat) : Char → Prop where
  | lower : d < 16 → HexText d d.digitChar
  | upper : d < 16 → HexText d d.digitChar.toUpper

/-- The escapes of one letter, and what they stand for. -/
def escapes : List (Char × Char) :=
  [('"', '"'), ('\\', '\\'), ('/', '/'), ('b', '\x08'), ('f', '\x0c'), ('n', '\n'), ('r', '\r'),
    ('t', '\t')]

inductive PieceText : Piece → List Char → Prop where
  | plain {c} : ' ' ≤ c → c ≠ '"' → c ≠ '\\' → PieceText (.char c) [c]
  | escape {e c} : (e, c) ∈ escapes → PieceText (.char c) ['\\', e]
  | code {a b c d a' b' c' d'} : HexText a a' → HexText b b' → HexText c c' → HexText d d' →
      PieceText (.code (((a * 16 + b) * 16 + c) * 16 + d)) ['\\', 'u', a', b', c', d']

inductive PiecesText : List Piece → List Char → Prop where
  | nil : PiecesText [] []
  | cons {p ps w cs} : PieceText p w → PiecesText ps cs → PiecesText (p :: ps) (w ++ cs)

def Digits.text (ds : Digits) : List Char :=
  ds.digits.map Nat.digitChar

def Literal.signText (l : Literal) : List Char :=
  if l.negative then ['-'] else []

def Literal.fractionText (l : Literal) : List Char :=
  match l.fraction with
  | none => []
  | some ds => '.' :: ds.text

/-- A plus may be left out. -/
inductive PowerSign : Bool → List Char → Prop where
  | none : PowerSign false []
  | plus : PowerSign false ['+']
  | minus : PowerSign true ['-']

inductive ExponentText : Option (Bool × Digits) → List Char → Prop where
  | absent : ExponentText none []
  | present {e down sign ds} : e = 'e' ∨ e = 'E' → PowerSign down sign →
      ExponentText (some (down, ds)) (e :: (sign ++ ds.text))

inductive TokenText : Token → List Char → Prop where
  | openObject : TokenText .openObject ['\x7b']
  | closeObject : TokenText .closeObject ['\x7d']
  | openList : TokenText .openList ['[']
  | closeList : TokenText .closeList [']']
  | colon : TokenText .colon [':']
  | comma : TokenText .comma [',']
  | null : TokenText .null ['n', 'u', 'l', 'l']
  | true : TokenText (.boolean true) ['t', 'r', 'u', 'e']
  | false : TokenText (.boolean false) ['f', 'a', 'l', 's', 'e']
  | quoted {ps w} : PiecesText ps w → TokenText (.ofPieces ps) ('"' :: (w ++ ['"']))
  | numeral {l : Literal} {w} : ExponentText l.exponent w →
      TokenText (.numeral l.numeral) (l.signText ++ (l.whole.text ++ (l.fractionText ++ w)))

/-- Blanks may stand before and behind every token. -/
inductive Spelled : List Token → List Char → Prop where
  | nil : Spelled [] []
  | blank {c ts cs} : c ∈ [' ', '\t', '\n', '\r'] → Spelled ts cs → Spelled ts (c :: cs)
  | token {t ts w cs} : TokenText t w → Spelled ts cs → Spelled (t :: ts) (w ++ cs)

/-- The text is JSON and says `v`. -/
def Value.Written (v : Value) (text : String) : Prop :=
  Spelled v.tokens text.toList

end GuestHost.Json
