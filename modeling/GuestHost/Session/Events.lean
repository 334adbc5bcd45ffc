import GuestHost.Session.Input

/-! Events, and the loop that hands them to a session one by one. -/
namespace GuestHost

/-- Each comes from a source of its own. A tick brings the state of the gamepads; a pull lends a
chunk and is answered unless its device is gone. -/
inductive Event where
  | frame (pads : Gamepads)
  | pointer (e : PointerEvent) (b : Bounds)
  | wheel (delta : Binary64)
  | key (e : KeyEvent)
  | contextMenu
  | padConnected (index : UInt32) (standard : Bool)
  | padDisconnected (index : UInt32)
  | audioPull (chunk : Chunk) (live : Bool)
  | save
  | restore
  | reset

/-- Whether the surroundings should handle the event as well. -/
inductive Disposition where
  | default
  | preventDefault
  deriving DecidableEq

/-- The guest takes what comes from the user's hands. -/
def Event.disposition : Event → Disposition
  | .pointer .. => .preventDefault
  | .wheel _ => .preventDefault
  | .key _ => .preventDefault
  | .contextMenu => .preventDefault
  | _ => .default

namespace Session

/-- The chunk goes back only when it could be filled. -/
def answerPull (chunk : Chunk) (live : Bool) : Act Error Session Unit :=
  fun s => let o := pullChunk (s, chunk)
    ⟨o.result, o.state.1, o.trace ++ match o.result with
      | .ok () => [if live then .reply o.state.2 else .note .replyDropped]
      | .error _ => []⟩

def perform : Event → Act Error Session Unit
  | .frame pads => update pads
  | .pointer e b => pointer e b
  | .wheel delta => wheel delta
  | .key e => keyboard e
  | .contextMenu => pure ()
  | .padConnected index standard => do
    let _ ← connect index standard
  | .padDisconnected index => disconnect index
  | .audioPull chunk live => answerPull chunk live
  | .save => save
  | .restore => restore
  | .reset => reset

/-- What is not fatal is noted and dropped. -/
def dispatch (e : Event) : Act Error Session Disposition := do
  match ← Act.attempt (perform e) with
  | .ok () => return e.disposition
  | .error err =>
    if err.isFatal then Act.fail err
    Act.note (.ignored err)
    return e.disposition

/-- Event after event, up to the first fatal error. -/
def drain : List Event → Act Error Session Unit
  | [] => pure ()
  | e :: rest => do
    let _ ← dispatch e
    drain rest

def run (events : List Event) : Act Error Session Unit := do
  Act.note .loopStarted
  drain events
  Act.note .loopFinished

end Session

end GuestHost
