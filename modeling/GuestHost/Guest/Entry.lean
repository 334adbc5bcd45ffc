import GuestHost.Binary64

/-! The entry points of a guest, and the calls that the host makes to them. -/
namespace GuestHost

inductive Entry where
  | init
  | runMain
  | onUpdate
  | onPointerEvent
  | onWheelEvent
  | onKeyboardEvent
  | getRomPtr
  | getStatePtr
  | getStateSize
  | getAudioSamples
  deriving DecidableEq

/-- The name under which the guest exports it. -/
def Entry.name : Entry → String
  | .init => "init"
  | .runMain => "runMain"
  | .onUpdate => "onUpdate"
  | .onPointerEvent => "onPointerEvent"
  | .onWheelEvent => "onWheelEvent"
  | .onKeyboardEvent => "onKeyboardEvent"
  | .getRomPtr => "getRomPtr"
  | .getStatePtr => "getStatePtr"
  | .getStateSize => "getStateSize"
  | .getAudioSamples => "getAudioSamples"

/-- A call with its arguments. A wheel takes a double or an integer, as the guest declares. -/
inductive Call where
  | init
  | runMain
  | update
  | pointer (x y : Int32) (buttons : UInt8)
  | wheelFloat (delta : Binary64)
  | wheelInt (delta : Int32)
  | keyboard (mask charCode : UInt8)
  | romPtr
  | statePtr
  | stateSize
  | audioSamples
  deriving DecidableEq

def Call.entry : Call → Entry
  | .init => .init
  | .runMain => .runMain
  | .update => .onUpdate
  | .pointer .. => .onPointerEvent
  | .wheelFloat _ => .onWheelEvent
  | .wheelInt _ => .onWheelEvent
  | .keyboard .. => .onKeyboardEvent
  | .romPtr => .getRomPtr
  | .statePtr => .getStatePtr
  | .stateSize => .getStateSize
  | .audioSamples => .getAudioSamples

end GuestHost
