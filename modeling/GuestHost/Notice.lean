import GuestHost.Audio.Wakeup
import GuestHost.Config.Hotkey
import GuestHost.Error
import GuestHost.Guest.Entry

/-! What the host writes to its log. -/
namespace GuestHost

inductive Level where
  | error
  | warn
  | info
  | debug
  deriving DecidableEq

inductive Notice where
  | exportMissing (entry : Entry)
  | guestFaulted (e : Error)
  | instantiated (width height : UInt32) (romSize : Nat)
  | booting
  | running
  | bootFailed (e : Error)
  | romTruncated (size capacity : Nat)
  | romLoaded (size : Nat) (ptr : UInt32)
  | noMain
  | resetRequested
  | regionSaved (size ptr : UInt32)
  | stateSaved (size : Nat)
  | nothingToRestore
  | sizesDiffer (snapshot : Nat) (region : UInt32)
  | regionRestored (size : Nat) (ptr : UInt32)
  | stateRestored (size : Nat)
  | hotkey (key : Hotkey)
  | padIgnored (index : UInt32)
  | padReplaced (index previous : UInt32)
  | padBound (index : UInt32)
  | padUnbound (index : UInt32)
  | audioResumed
  | audioRefused (causes : List String)
  | replyDropped
  | ignored (e : Error)
  | loopStarted
  | loopFinished
  | guestLine (text : String)
  deriving DecidableEq

namespace Notice

def level : Notice → Level
  | exportMissing _ | romTruncated .. | sizesDiffer .. => .warn
  | guestFaulted _ | bootFailed _ => .error
  | instantiated .. | booting | running | resetRequested | stateSaved _ | stateRestored _
  | padBound _ | padUnbound _ | audioResumed | loopStarted | loopFinished | guestLine _ => .info
  | romLoaded .. | noMain | regionSaved .. | nothingToRestore | regionRestored .. | hotkey _
  | padIgnored _ | padReplaced .. | audioRefused _ | replyDropped | ignored _ => .debug

/-- The guest's own lines are kept apart from the host's. -/
def fromGuest : Notice → Bool
  | guestLine _ => true
  | _ => false

def decimal (v : UInt32) : String :=
  v.toNat.repr

def address (v : UInt32) : String :=
  "0x" ++ Text.hex v.toNat

def message : Notice → String
  | exportMissing entry => "guest does not export `" ++ entry.name ++ "`; feature disabled"
  | guestFaulted e => "guest faulted: " ++ e.message
  | instantiated width height romSize =>
    "VM instantiated: " ++ decimal width ++ "x" ++ decimal height ++ " display, " ++
      romSize.repr ++ " byte ROM"
  | booting => "booting"
  | running => "running"
  | bootFailed e => "boot failed: " ++ e.message
  | romTruncated size capacity =>
    "ROM is " ++ size.repr ++ " bytes, only the first " ++ capacity.repr ++ " fit; truncating"
  | romLoaded size ptr => "loaded " ++ size.repr ++ " ROM bytes at " ++ address ptr
  | noMain => "guest has no runMain"
  | resetRequested => "reset requested"
  | regionSaved size ptr =>
    "saved " ++ decimal size ++ " bytes of guest state from " ++ address ptr
  | stateSaved size => "state saved (" ++ size.repr ++ " bytes)"
  | nothingToRestore => "restore requested with no snapshot"
  | sizesDiffer snapshot region =>
    "restoring a " ++ snapshot.repr ++ "-byte snapshot into a " ++ decimal region ++
      "-byte state region"
  | regionRestored size ptr =>
    "restored " ++ size.repr ++ " bytes of guest state at " ++ address ptr
  | stateRestored size => "state restored (" ++ size.repr ++ " bytes)"
  | hotkey key => "hotkey " ++ key.name
  | padIgnored index => "ignoring gamepad " ++ decimal index ++ ": non-standard mapping"
  | padReplaced index previous =>
    "gamepad " ++ decimal index ++ " replaces gamepad " ++ decimal previous
  | padBound index => "gamepad " ++ decimal index ++ " bound"
  | padUnbound index => "gamepad " ++ decimal index ++ " unbound"
  | audioResumed => "audio device resumed"
  | audioRefused causes => "audio device not resumable yet: " ++ ": ".intercalate causes
  | replyDropped => "audio device dropped its reply channel"
  | ignored e => "ignored: " ++ e.message
  | loopStarted => "dispatch loop started"
  | loopFinished => "event source closed, dispatch loop finished"
  | guestLine text => text

def ofAnswer : Wakeup.Answer → Notice
  | .resumed => audioResumed
  | .refused causes => audioRefused causes

end Notice

end GuestHost
