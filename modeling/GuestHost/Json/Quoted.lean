import GuestHost.Json.Fault

/-! Quoted JSON text: what is written between the quotes, and the text it stands for. -/
namespace GuestHost.Json

/-- A character, or the 16-bit code of a `\u` escape. -/
inductive Piece where
  | char (c : Char)
  | code (u : Nat)
  deriving DecidableEq

/-- What is written up to the closing quote, or up to the fault that stands in its way. -/
structure Quoted where
  pieces : List Piece
  fault : Option Fault
  deriving DecidableEq

namespace Quoted

def push (p : Piece) (q : Quoted × List Char) : Quoted × List Char :=
  (⟨p :: q.1.pieces, q.1.fault⟩, q.2)

def broken (f : Fault) : Quoted × List Char :=
  (⟨[], some f⟩, [])

def hexDigit? (c : Char) : Option Nat :=
  if '0' ≤ c ∧ c ≤ '9' then some (c.toNat - '0'.toNat)
  else if 'a' ≤ c ∧ c ≤ 'f' then some (c.toNat - 'a'.toNat + 10)
  else if 'A' ≤ c ∧ c ≤ 'F' then some (c.toNat - 'A'.toNat + 10)
  else none

def code? (a b c d : Char) : Option Nat := do
  let a ← hexDigit? a
  let b ← hexDigit? b
  let c ← hexDigit? c
  let d ← hexDigit? d
  return ((a * 16 + b) * 16 + c) * 16 + d

/-- The character that a one-letter escape stands for. -/
def escaped? : Char → Option Char
  | '"' => some '"'
  | '\\' => some '\\'
  | '/' => some '/'
  | 'b' => some '\x08'
  | 'f' => some '\x0c'
  | 'n' => some '\n'
  | 'r' => some '\r'
  | 't' => some '\t'
  | _ => none

/-- A code needs four bytes; a text with fewer left has ended. -/
def shortCode (rest : List Char) : Fault :=
  if rest.foldl (fun n c => n + c.utf8Size) 0 < 4 then .ended else .malformed

/-- Scans behind the opening quote. -/
def scan : List Char → Quoted × List Char
  | [] => broken .ended
  | '"' :: cs => (⟨[], none⟩, cs)
  | '\\' :: 'u' :: a :: b :: c :: d :: cs =>
    match code? a b c d with
    | some u => push (.code u) (scan cs)
    | none => broken .malformed
  | '\\' :: 'u' :: cs => broken (shortCode cs)
  | '\\' :: e :: cs =>
    match escaped? e with
    | some c => push (.char c) (scan cs)
    | none => broken .malformed
  | ['\\'] => broken .ended
  | c :: cs => if c < ' ' then broken .malformed else push (.char c) (scan cs)

theorem length_scan_le (cs : List Char) : (scan cs).2.length ≤ cs.length := by
  fun_induction scan cs <;> simp [broken, push] <;> omega

def isLeading (u : Nat) : Bool :=
  0xd800 ≤ u && u ≤ 0xdbff

def isTrailing (u : Nat) : Bool :=
  0xdc00 ≤ u && u ≤ 0xdfff

/-- A leading surrogate must be followed at once by a trailing one. -/
def decode (fault : Option Fault) : List Piece → Except Fault (List Char)
  | [] => match fault with
    | some f => .error f
    | none => .ok []
  | .char c :: ps => (decode fault ps).map (c :: ·)
  | .code u :: ps =>
    if isTrailing u then .error .malformed
    else if isLeading u then
      match ps with
      | [] => .error (fault.getD .malformed)
      | .code v :: ps =>
        if isTrailing v then
          (decode fault ps).map (.ofNat (0x10000 + (u - 0xd800) * 0x400 + (v - 0xdc00)) :: ·)
        else .error .malformed
      | .char _ :: _ => .error .malformed
    else (decode fault ps).map (.ofNat u :: ·)

def text (q : Quoted) : Except Fault String :=
  (decode q.fault q.pieces).map .ofList

end Quoted

end GuestHost.Json
