import GuestHost.Json.Skip

/-! Reading records from objects, key by key, or from lists, field by field. -/
namespace GuestHost.Json

/-- A reader takes its value off the front of the tokens. -/
abbrev Reader (α : Type) := List Token → Except Fault (α × List Token)

/-- A field turns its value into a change of the record. -/
structure Field (σ : Type) where
  name : String
  read : Reader (σ → σ)

def Field.of {σ α : Type} (name : String) (read : Reader α) (set : α → σ → σ) : Field σ where
  name
  read ts := (read ts).map fun (a, rest) => (set a, rest)

/-- Fields that are not given keep their value in `initial`. -/
structure Schema (σ : Type) where
  title : String
  fields : List (Field σ)
  initial : σ

def readWord : Reader UInt32
  | [] => .error .ended
  | .numeral n :: ts => match n.value with
    | .error f => .error f
    | .ok (.integer i) =>
      if 0 ≤ i ∧ i < 0x1_0000_0000 then .ok (.ofNat i.toNat, ts)
      else .error (.wrongValue (.integer i) "u32")
    | .ok (.real x) => .error (.wrongType (.real x) "u32")
  | t :: _ => .error (t.mismatch "u32")

def readOptionalWord : Reader (Option UInt32)
  | .null :: ts => .ok (none, ts)
  | ts => (readWord ts).map fun (v, rest) => (some v, rest)

namespace Schema

variable {σ : Type}

def field? (S : Schema σ) (name : String) : Option (Field σ) :=
  S.fields.find? (·.name = name)

/-- The tokens behind the colon. -/
def colon : List Token → Except Fault (List Token)
  | [] => .error .ended
  | .colon :: ts => .ok ts
  | _ => .error .malformed

/-- One key and its value. A key of the record may come once; other keys are passed over. -/
def entry (S : Schema σ) (seen : List String) (r : σ) :
    List Token → Except Fault (List String × σ × List Token)
  | [] => .error .ended
  | .quoted q :: ts => do
    let name ← q.text
    match S.field? name with
    | none => do
      let ts ← colon ts
      let ts ← skip ts
      return (seen, r, ts)
    | some f => do
      if name ∈ seen then throw (.repeated name)
      let ts ← colon ts
      let (change, ts) ← f.read ts
      return (name :: seen, change r, ts)
  | _ => .error .malformed

/-- Entries up to the closing brace; every entry takes a token at least, so `fuel` tokens do. -/
def entries (S : Schema σ) : (fuel : Nat) → (first : Bool) → List String → σ → Reader σ
  | 0, _, _, _, _ => .error .ended
  | _ + 1, _, _, _, [] => .error .ended
  | _ + 1, _, _, r, .closeObject :: ts => .ok (r, ts)
  | fuel + 1, first, seen, r, t :: ts => do
    let ts ← if first then pure (t :: ts) else if t = .comma then pure ts else throw .malformed
    let (seen, r, ts) ← S.entry seen r ts
    entries S fuel false seen r ts

/-- List items in the order of the fields. A list may end early, but not go on. -/
def items (r : σ) : (first : Bool) → List (Field σ) → Reader σ
  | _, _, [] => .error .ended
  | _, _, .closeList :: ts => .ok (r, ts)
  | _, [], _ => .error .malformed
  | first, f :: fs, t :: ts => do
    let ts ← if first then pure (t :: ts) else if t = .comma then pure ts else throw .malformed
    if !first && ts.head? = some .closeList then throw .malformed
    let (change, ts) ← f.read ts
    items (change r) false fs ts

def read (S : Schema σ) : Reader σ
  | [] => .error .ended
  | .openObject :: ts => S.entries (ts.length + 1) true [] S.initial ts
  | .openList :: ts => items S.initial true S.fields ts
  | t :: _ => .error (t.mismatch S.title)

/-- The record that a whole text holds. -/
def readText (S : Schema σ) (text : String) : Except Fault σ := do
  let (r, rest) ← S.read (Token.scan text.toList)
  if rest.isEmpty then return r else throw .malformed

end Schema

end GuestHost.Json
