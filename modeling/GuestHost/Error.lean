import GuestHost.Config.Reader
import GuestHost.Container.Text

/-! All that can go wrong between host and guest. -/
namespace GuestHost

/-- Causes are listed from the outermost in. -/
inductive Error where
  | load (e : Container.LoadError)
  | config (e : Config.Error)
  | setup (causes : List String)
  | missingMemory
  | missingExport (name : String)
  | unsupported (name : String)
  | outOfRange (addr len size : Nat)
  | unterminated (addr : Nat)
  | emptyRom
  | trap (entry : String) (causes : List String)
  | faulted
  | notRunning
  deriving DecidableEq

namespace Error

def message : Error → String
  | .load e => e.message
  | .config e => e.message
  | .setup causes => "failed to set up the wasm runtime: " ++ ": ".intercalate causes
  | .missingMemory => "guest does not export a linear memory named `memory`"
  | .missingExport name => "guest is missing required export `" ++ name ++ "`"
  | .unsupported name => "guest does not export `" ++ name ++ "`"
  | .outOfRange addr len size =>
    "guest range 0x" ++ Text.hex addr ++ "+0x" ++ Text.hex len ++ " exceeds its 0x" ++
      Text.hex size ++ "-byte memory"
  | .unterminated addr => "guest string at 0x" ++ Text.hex addr ++ " has no NUL terminator"
  | .emptyRom => "ROM image is empty"
  | .trap entry causes => "guest trapped in `" ++ entry ++ "`: " ++ ": ".intercalate causes
  | .faulted => "guest faulted earlier and no longer accepts calls"
  | .notRunning => "session is not running"

/-- A missing feature or an early event can be dropped; after all else the session must stop. -/
def isFatal : Error → Bool
  | .unsupported _ => false
  | .notRunning => false
  | _ => true

end Error

end GuestHost
