import GuestHost.Act
import GuestHost.Guest.Module

/-! The entry points that a guest offers, looked up once. -/
namespace GuestHost.Guest

/-- A wheel entry takes a double or an integer. -/
inductive Wheel where
  | float (run : Binary64 → Routine Unit)
  | int (run : Int32 → Routine Unit)

/-- Three entry points every guest must have; the others are features. -/
structure Entrypoints where
  init : Routine Unit
  runMain : Option (Routine Unit)
  onUpdate : Routine Unit
  onPointer : Option (Int32 → Int32 → UInt8 → Routine Unit)
  onWheel : Option Wheel
  onKeyboard : Option (UInt8 → UInt8 → Routine Unit)
  romPtr : Routine UInt32
  statePtr : Option (Routine UInt32)
  stateSize : Option (Routine UInt32)
  audioSamples : Option (Routine UInt32)

abbrev Exports := List (String × Extern)

namespace Exports

def action? (exports : Exports) (e : Entry) : Option (Routine Unit) :=
  (func? exports e.name ⟨[], []⟩).map fun f => f ()

def query? (exports : Exports) (e : Entry) : Option (Routine UInt32) :=
  (func? exports e.name ⟨[], [.i32]⟩).map fun f => (f ()).map (·.1)

def pointer? (exports : Exports) : Option (Int32 → Int32 → UInt8 → Routine Unit) :=
  (func? exports Entry.onPointerEvent.name ⟨[.i32, .i32, .i32], []⟩).map fun f x y buttons =>
    f (x.toUInt32, y.toUInt32, buttons.toUInt32, ())

/-- A double is preferred. -/
def wheel? (exports : Exports) : Option Wheel :=
  match func? exports Entry.onWheelEvent.name ⟨[.f64], []⟩ with
  | some f => some (.float fun delta => f (delta.bits, ()))
  | none => (func? exports Entry.onWheelEvent.name ⟨[.i32], []⟩).map fun f =>
    .int fun delta => f (delta.toUInt32, ())

def keyboard? (exports : Exports) : Option (UInt8 → UInt8 → Routine Unit) :=
  (func? exports Entry.onKeyboardEvent.name ⟨[.i32, .i32], []⟩).map fun f mask charCode =>
    f (mask.toUInt32, charCode.toUInt32, ())

end Exports

variable {σ α : Type}

def required (e : Entry) : Option α → Act Error σ α
  | some a => .pure a
  | none => .fail (.missingExport e.name)

/-- A feature that is missing is noted. -/
def feature (e : Entry) (found : Option α) : Act Error σ (Option α) :=
  fun s => ⟨.ok found, s, if found.isNone then [.note (.exportMissing e)] else []⟩

/-- Goes through the entry points in a fixed order and stops at the first required one missing. -/
def Exports.entrypoints (exports : Exports) : Act Error σ Entrypoints := do
  let onWheel ← feature .onWheelEvent exports.wheel?
  let init ← required .init (exports.action? .init)
  let runMain ← feature .runMain (exports.action? .runMain)
  let onUpdate ← required .onUpdate (exports.action? .onUpdate)
  let onPointer ← feature .onPointerEvent exports.pointer?
  let onKeyboard ← feature .onKeyboardEvent exports.keyboard?
  let romPtr ← required .getRomPtr (exports.query? .getRomPtr)
  let statePtr ← feature .getStatePtr (exports.query? .getStatePtr)
  let stateSize ← feature .getStateSize (exports.query? .getStateSize)
  let audioSamples ← feature .getAudioSamples (exports.query? .getAudioSamples)
  return {
    init, runMain, onUpdate, onPointer, onWheel, onKeyboard, romPtr, statePtr, stateSize,
    audioSamples }

end GuestHost.Guest
