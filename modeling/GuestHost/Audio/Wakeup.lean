/-! Waking a suspended audio device, one attempt for each gesture of the user. -/
namespace GuestHost

/-- The causes of the refusal of each attempt, counted from zero; none once the device plays. -/
structure AudioDevice where
  refusal : (attempt : Nat) → Option (List String)

/-- Pending until the device has answered one attempt without refusing. -/
structure Wakeup where
  device : Option AudioDevice
  pending : Bool
  attempts : Nat := 0

namespace Wakeup

def ofDevice (device : Option AudioDevice) : Wakeup where
  device
  pending := device.isSome

inductive Answer where
  | resumed
  | refused (causes : List String)
  deriving DecidableEq

/-- One attempt, if any is still due, and the answer to it. -/
def gesture (r : Wakeup) : Wakeup × Option Answer :=
  if !r.pending then (r, none)
  else match r.device with
    | none => (r, none)
    | some d => match d.refusal r.attempts with
      | none => ({ r with pending := false, attempts := r.attempts + 1 }, some .resumed)
      | some causes => ({ r with attempts := r.attempts + 1 }, some (.refused causes))

end Wakeup

end GuestHost
