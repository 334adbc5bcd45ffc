import GuestHost.Binary64.Shortest
import GuestHost.Text.Quoted

/-! Why a document is refused. -/
namespace GuestHost.Json

/-- A value met where another kind was expected. -/
inductive Found where
  | null
  | boolean (b : Bool)
  | integer (n : Int)
  | real (x : Binary64)
  | text (s : String)
  | list
  | object
  deriving DecidableEq

def Found.describe : Found → String
  | .null => "null"
  | .boolean b => "boolean `" ++ (if b then "true" else "false") ++ "`"
  | .integer n => "integer `" ++ n.repr ++ "`"
  | .real x => "floating point `" ++ x.text ++ "`"
  | .text s => "string " ++ Text.quoted s
  | .list => "sequence"
  | .object => "map"

/-- Either the text is no JSON, or it says what the reader cannot take. -/
inductive Fault where
  | ended
  | malformed
  | repeated (field : String)
  | wrongType (found : Found) (expected : String)
  | wrongValue (found : Found) (expected : String)
  deriving DecidableEq

def Fault.message : Fault → String
  | .ended => "the document ends too early"
  | .malformed => "the document is malformed"
  | .repeated field => "duplicate field `" ++ field ++ "`"
  | .wrongType found expected => "invalid type: " ++ found.describe ++ ", expected " ++ expected
  | .wrongValue found expected => "invalid value: " ++ found.describe ++ ", expected " ++ expected

end GuestHost.Json
