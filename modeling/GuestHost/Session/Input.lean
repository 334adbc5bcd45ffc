import GuestHost.Session.Lifecycle

/-! Input and audio of a session. -/
namespace GuestHost.Session

variable {ε : Type}

/-- One attempt to wake the audio device. -/
def gesture : Act ε Session Unit :=
  fun s => let (audio, answer) := s.audio.gesture
    ⟨.ok (), { s with audio }, (answer.map fun a => Output.note (.ofAnswer a)).toList⟩

def pointer (e : PointerEvent) (b : Bounds) : Act Error Session Unit := do
  if e.kind = .down then gesture
  requireRunning
  let s ← Act.get
  onVm (Vm.pointer (s.input.pointer e b))

def wheel (delta : Binary64) : Act Error Session Unit := do
  requireRunning
  onVm (Vm.wheel delta)

def obey (k : Hotkey) : Act Error Session Unit := do
  Act.note (.hotkey k)
  match k with
  | .save => save
  | .restore => restore
  | .reset => reset

def forwardKey (e : KeyEvent) : Act Error Session Unit := do
  requireRunning
  let s ← Act.get
  let (input, i) := s.input.keyboard e
  Act.modify fun s => { s with input }
  onVm (Vm.keyboard i)

/-- A hotkey acts when it goes down; neither half of it reaches the guest. -/
def keyboard (e : KeyEvent) : Act Error Session Unit := do
  if e.state = .down then gesture
  let s ← Act.get
  match s.config.hotkeys.find? e.code, e.state with
  | some k, .down => obey k
  | some _, .up => pure ()
  | none, _ => forwardKey e

def connectNotices (bound : Option UInt32) (index : UInt32) (standard : Bool) : List Notice :=
  if !standard then [.padIgnored index]
  else match bound with
    | some previous => [.padReplaced index previous, .padBound index]
    | none => [.padBound index]

/-- Whether the gamepad is bound now. -/
def connect (index : UInt32) (standard : Bool) : Act ε Session Bool :=
  fun s => let (input, isBound) := s.input.connect index standard
    ⟨.ok isBound, { s with input },
      (connectNotices s.input.boundPad index standard).map .note⟩

def disconnect (index : UInt32) : Act ε Session Unit :=
  fun s => ⟨.ok (), { s with input := s.input.disconnect index },
    if s.input.boundPad = some index then [.note (.padUnbound index)] else []⟩

def chunkFrames (s : Session) : Nat :=
  s.config.audio.chunkFrames.toNat

/-- Fills the lent chunk, with silence unless the session runs. -/
def pullChunk : Act Error (Session × Chunk) Unit := do
  let (s, _) ← Act.get
  if s.lifecycle = .running then
    Act.on (fun p => (p.1.vm, p.2)) (fun q p => ({ p.1 with vm := q.1 }, q.2))
      (Vm.pullChunk s.chunkFrames)
  else
    Act.modify fun (s, c) => (s, (c.resize s.chunkFrames).silence)

end GuestHost.Session
