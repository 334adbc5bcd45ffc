import GuestHost.Config.Basic

/-! The lifecycle action that a key code is bound to. -/
namespace GuestHost

inductive Hotkey where
  | save
  | restore
  | reset
  deriving DecidableEq

def Hotkey.name : Hotkey → String
  | .save => "Save"
  | .restore => "Restore"
  | .reset => "Reset"

/-- A code bound more than once acts as the first of its bindings. -/
def Config.Hotkeys.find? (h : Config.Hotkeys) (code : UInt32) : Option Hotkey :=
  if h.save = some code then some .save
  else if h.restore = some code then some .restore
  else if h.reset = some code then some .reset
  else none

end GuestHost
