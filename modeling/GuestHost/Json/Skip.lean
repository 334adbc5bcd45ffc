import GuestHost.Json.Token

/-! Passing over a value that nobody asked for. -/
namespace GuestHost.Json

namespace Skip

inductive Enclosure where
  | list
  | object
  deriving DecidableEq

/-- What stands next inside the innermost enclosure. -/
inductive Place where
  | value
  | firstItem
  | after
  | firstKey
  | key
  | colon
  deriving DecidableEq

/-- Where the reading is. The value has ended once nothing is open. -/
abbrev Position := Place × List Enclosure

def close : List Enclosure → Option Position
  | [] => none
  | open_ => some (.after, open_)

def value (open_ : List Enclosure) : Token → Except Fault (Option Position)
  | .openList => .ok (some (.firstItem, .list :: open_))
  | .openObject => .ok (some (.firstKey, .object :: open_))
  | .null => .ok (close open_)
  | .boolean _ => .ok (close open_)
  | .numeral n => if n.fault.isSome then .error .malformed else .ok (close open_)
  | .quoted q => match q.fault with
    | some f => .error f
    | none => .ok (close open_)
  | .brokenWord f => .error f
  | _ => .error .malformed

def key (open_ : List Enclosure) : Token → Except Fault (Option Position)
  | .quoted q => match q.fault with
    | some f => .error f
    | none => .ok (some (.colon, open_))
  | _ => .error .malformed

def after (open_ : List Enclosure) : Token → Except Fault (Option Position)
  | .comma => match open_ with
    | .list :: _ => .ok (some (.value, open_))
    | .object :: _ => .ok (some (.key, open_))
    | [] => .error .malformed
  | .closeList => match open_ with
    | .list :: rest => .ok (close rest)
    | _ => .error .malformed
  | .closeObject => match open_ with
    | .object :: rest => .ok (close rest)
    | _ => .error .malformed
  | _ => .error .malformed

/-- One token on; nothing when it ends the value. -/
def step : Position → Token → Except Fault (Option Position)
  | (.value, open_), t => value open_ t
  | (.firstItem, open_), t => if t = .closeList then after open_ t else value open_ t
  | (.after, open_), t => after open_ t
  | (.firstKey, open_), t => if t = .closeObject then after open_ t else key open_ t
  | (.key, open_), t => key open_ t
  | (.colon, open_), t => if t = .colon then .ok (some (.value, open_)) else .error .malformed

/-- The tokens behind the value that goes on at `p`. -/
def run (p : Position) : List Token → Except Fault (List Token)
  | [] => .error .ended
  | t :: ts => match step p t with
    | .error f => .error f
    | .ok none => .ok ts
    | .ok (some p) => run p ts

end Skip

/-- The tokens behind one well-formed value. -/
def skip (ts : List Token) : Except Fault (List Token) :=
  Skip.run (.value, []) ts

end GuestHost.Json
