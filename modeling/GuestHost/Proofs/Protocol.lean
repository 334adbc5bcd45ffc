import GuestHost.Proofs.Session.Operation

/-! The calls that a session makes, as an abstract protocol. It knows whether the session runs,
whether it has a snapshot, and what is held; the guest adds which calls it offers, and whether the
image and its state fit its memory. -/
namespace GuestHost

/-- What is asked of a session, hotkeys resolved. -/
inductive Request where
  | start
  | tick (pads : Gamepads)
  | point (e : PointerEvent) (b : Bounds)
  | turn (delta : Binary64)
  | press (e : KeyEvent)
  | save
  | restore
  | pull
  | connect (index : UInt32) (standard : Bool)
  | disconnect (index : UInt32)
  | nothing

/-- Whether the request is turned down unless the session runs. -/
def Request.guarded : Request → Bool
  | .tick _ => true
  | .point .. => true
  | .turn _ => true
  | .press _ => true
  | .save => true
  | .restore => true
  | _ => false

def Request.boots : Request → Bool
  | .start => true
  | _ => false

theorem Request.not_boots_of_guarded {request : Request} (h : request.guarded = true) :
    request.boots = false := by
  cases request <;> first | rfl | cases h

theorem Request.eq_start_of_boots {request : Request} (h : request.boots = true) :
    request = .start := by
  cases request <;> first | rfl | cases h

/-- What a session that does not run answers. -/
def Request.whileIdle (request : Request) : Except Error Unit :=
  if request.guarded then .error .notRunning else .ok ()

def Hotkey.request : Hotkey → Request
  | .save => .save
  | .restore => .restore
  | .reset => .start

theorem Hotkey.request_inj {k k' : Hotkey} (h : k.request = k'.request) : k = k' := by
  cases k <;> cases k' <;> first | rfl | cases h

/-- The second half of a hotkey asks for nothing. -/
def KeyEvent.request (hotkeys : Config.Hotkeys) (e : KeyEvent) : Request :=
  match hotkeys.find? e.code, e.state with
  | none, _ => .press e
  | some k, .down => k.request
  | some _, .up => .nothing

def Event.request (hotkeys : Config.Hotkeys) : Event → Request
  | .frame pads => .tick pads
  | .pointer e b => .point e b
  | .wheel delta => .turn delta
  | .key e => e.request hotkeys
  | .contextMenu => .nothing
  | .padConnected index standard => .connect index standard
  | .padDisconnected index => .disconnect index
  | .audioPull _ _ => .pull
  | .save => .save
  | .restore => .restore
  | .reset => .start

/-- A boot is a reset. Writes from outside ask for nothing. -/
def Operation.request (hotkeys : Config.Hotkeys) : Operation → Request
  | .boot => .start
  | .reset => .start
  | .update pads => .tick pads
  | .pointer e b => .point e b
  | .wheel delta => .turn delta
  | .key e => e.request hotkeys
  | .connect index standard => .connect index standard
  | .disconnect index => .disconnect index
  | .save => .save
  | .restore => .restore
  | .pull _ => .pull
  | .dispatch e => e.request hotkeys
  | .poke _ _ => .nothing

/-- All that a session must remember to know which calls to make. -/
structure Protocol where
  running : Bool
  saved : Bool
  input : Arbiter

namespace Protocol

/-- A poll is told to the guest when it has changed the mask. -/
def told (p : Protocol) (pads : Gamepads) : List Call :=
  let mask := (p.input.poll pads).1.mask
  if mask = p.input.mask then [] else [.keyboard mask 0]

def whileRunning (p : Protocol) (cs : List Call) : List Call :=
  if p.running then cs else []

/-- The calls for one request, to a guest that offers them all. Of the two calls for a wheel every
guest offers at most one. -/
def script (p : Protocol) (fits : Bool) : Request → List Call
  | .start => [.init, .romPtr] ++ if fits then [.runMain] else []
  | .tick pads => p.whileRunning (p.told pads ++ [.update])
  | .point e b => p.whileRunning
    [.pointer (p.input.pointer e b).x (p.input.pointer e b).y (p.input.pointer e b).buttons]
  | .turn delta => p.whileRunning [.wheelFloat delta, .wheelInt delta.toInt32]
  | .press e => p.whileRunning [.keyboard (p.input.keyboard e).1.mask e.charCode]
  | .save => p.whileRunning [.statePtr, .stateSize]
  | .restore => p.whileRunning (if p.saved then [.statePtr, .stateSize] else [])
  | .pull => p.whileRunning [.audioSamples]
  | .connect .. => []
  | .disconnect _ => []
  | .nothing => []

/-- A session runs when its image fits, and has a snapshot once its state has. -/
def after (p : Protocol) (fits : Bool) : Request → Protocol
  | .start => { p with running := fits, input := p.input.reset }
  | .tick pads => if p.running then { p with input := (p.input.poll pads).1 } else p
  | .press e => if p.running then { p with input := (p.input.keyboard e).1 } else p
  | .save => if p.running && fits then { p with saved := true } else p
  | .connect index standard => { p with input := (p.input.connect index standard).1 }
  | .disconnect index => { p with input := p.input.disconnect index }
  | _ => p

/-- Request after request. -/
def run (p : Protocol) : List (Request × Bool) → List Call × Protocol
  | [] => ([], p)
  | (request, fits) :: rest =>
    let (cs, p') := (p.after fits request).run rest
    (p.script fits request ++ cs, p')

end Protocol

end GuestHost
