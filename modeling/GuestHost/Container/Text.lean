import GuestHost.Container.Format

/-! Modules in text form: the empty module, among blanks and comments. -/
namespace GuestHost.Container

namespace Text

/-- Where a text is being read. Block comments nest. -/
inductive Place where
  | code
  | line
  | block (depth : Nat)
  deriving DecidableEq

def isBlank (c : Char) : Bool :=
  c == ' ' || c == '\t' || c == '\n' || c == '\r'

/-- Invisible codes that reorder or reshape the text around them. -/
def isDeceptive (c : Char) : Bool :=
  c == '\u202a' || c == '\u202b' || c == '\u202d' || c == '\u202e' || c == '\u2066' ||
    c == '\u2067' || c == '\u2068' || c == '\u2069' || c == '\u206c'

/-- The text with a space for each blank and each comment. A block comment must be closed, and no
comment may hold a deceptive code. -/
def plain : Place → List Char → Option (List Char)
  | .code, [] => some []
  | .code, '(' :: ';' :: cs => (' ' :: ·) <$> plain (.block 0) cs
  | .code, ';' :: ';' :: cs => (' ' :: ·) <$> plain .line cs
  | .code, c :: cs => ((if isBlank c then ' ' else c) :: ·) <$> plain .code cs
  | .line, [] => some []
  | .line, c :: cs =>
    if isDeceptive c then none
    else if c = '\n' ∨ c = '\r' then plain .code cs else plain .line cs
  | .block _, [] => none
  | .block n, '(' :: ';' :: cs => plain (.block (n + 1)) cs
  | .block 0, ';' :: ')' :: cs => plain .code cs
  | .block (n + 1), ';' :: ')' :: cs => plain (.block n) cs
  | .block n, c :: cs => if isDeceptive c then none else plain (.block n) cs

def trimLeft (cs : List Char) : List Char :=
  cs.dropWhile (· == ' ')

/-- What follows `word`, after spaces. -/
def expect? (word : List Char) (cs : List Char) : Option (List Char) :=
  let cs := trimLeft cs
  if word.isPrefixOf cs then some (cs.drop word.length) else none

def isEmptyModule (cs : List Char) : Bool :=
  match (plain .code cs >>= expect? ['('] >>= expect? ['m', 'o', 'd', 'u', 'l', 'e'] >>=
    expect? [')']) with
  | some rest => (trimLeft rest).isEmpty
  | none => false

end Text

/-- The empty module in binary form: the magic bytes and version 1. -/
def emptyModule : ByteArray :=
  ⟨#[0x00, 0x61, 0x73, 0x6d, 0x01, 0x00, 0x00, 0x00]⟩

/-- The binary form of a module text. -/
def assemble (bytes : ByteArray) : Option ByteArray :=
  match String.fromUTF8? bytes with
  | some s => if Text.isEmptyModule s.toList then some emptyModule else none
  | none => none

/-- Why bytes give no module. -/
inductive LoadError where
  | unrecognized
  | badText
  | badBinary (causes : List String)
  deriving DecidableEq

def LoadError.message : LoadError → String
  | .unrecognized => "VM module is neither wasm nor wat"
  | .badText => "failed to parse VM module text"
  | .badBinary causes => "failed to compile VM module: " ++ ": ".intercalate causes

/-- Reads a module in text form, or refuses it. -/
abbrev Assembler := ByteArray → Option ByteArray

/-- A binary module is handed on as it is, a text as it is read. -/
def binaryFormBy (read : Assembler) (bytes : ByteArray) : Except LoadError (Format × ByteArray) :=
  match Format.ofBytes? bytes with
  | none => .error .unrecognized
  | some .binary => .ok (.binary, bytes)
  | some .text => match read bytes with
    | some binary => .ok (.text, binary)
    | none => .error .badText

def binaryForm : ByteArray → Except LoadError (Format × ByteArray) :=
  binaryFormBy assemble

end GuestHost.Container
