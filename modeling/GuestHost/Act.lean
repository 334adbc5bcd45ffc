import GuestHost.Audio.Chunk
import GuestHost.Display.Png
import GuestHost.Notice

/-! Actions that change a state, may fail, and keep what they did and said before they failed. -/
namespace GuestHost

/-- What leaves the host, or enters the guest, in the order in which it does. -/
inductive Output where
  | line (text : String)
  | frame (f : Frame)
  | call (c : Call)
  | note (n : Notice)
  | reply (c : Chunk)
  deriving DecidableEq

/-- Where nobody takes lines and frames, the log takes the lines. -/
def Output.logged : Output → Option Output
  | .line text => some (.note (.guestLine text))
  | .frame _ => none
  | o => some o

/-- A failure leaves a state and a trace too. -/
structure Outcome (ε σ α : Type) where
  result : Except ε α
  state : σ
  trace : List Output

def Act (ε σ α : Type) : Type :=
  σ → Outcome ε σ α

namespace Act

variable {ε ε' σ τ α β : Type}

protected def pure (a : α) : Act ε σ α :=
  fun s => ⟨.ok a, s, []⟩

protected def bind (x : Act ε σ α) (f : α → Act ε σ β) : Act ε σ β :=
  fun s => match x s with
    | ⟨.ok a, s, t⟩ =>
      let o := f a s
      ⟨o.result, o.state, t ++ o.trace⟩
    | ⟨.error e, s, t⟩ => ⟨.error e, s, t⟩

instance : Monad (Act ε σ) where
  pure := Act.pure
  bind := Act.bind

def fail (e : ε) : Act ε σ α :=
  fun s => ⟨.error e, s, []⟩

def get : Act ε σ σ :=
  fun s => ⟨.ok s, s, []⟩

def modify (f : σ → σ) : Act ε σ Unit :=
  fun s => ⟨.ok (), f s, []⟩

def emit (o : Output) : Act ε σ Unit :=
  fun s => ⟨.ok (), s, [o]⟩

def note (n : Notice) : Act ε σ Unit :=
  emit (.note n)

def lines (texts : List String) : Act ε σ Unit :=
  fun s => ⟨.ok (), s, texts.map .line⟩

def ofExcept : Except ε α → Act ε σ α
  | .ok a => Act.pure a
  | .error e => fail e

/-- Catches the failure, with what was done before it. -/
def attempt (x : Act ε σ α) : Act ε' σ (Except ε α) :=
  fun s => let o := x s
    ⟨.ok o.result, o.state, o.trace⟩

/-- Acts on a part of a larger state. -/
def on (part : τ → σ) (put : σ → τ → τ) (x : Act ε σ α) : Act ε τ α :=
  fun s => let o := x (part s)
    ⟨o.result, put o.state s, o.trace⟩

end Act

end GuestHost
