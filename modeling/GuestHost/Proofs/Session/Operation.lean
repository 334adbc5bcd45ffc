import GuestHost.Proofs.Guest.Exports
import GuestHost.Proofs.Vm
import GuestHost.Session.Events

/-! Operations on a session in any order. A relation that the parts of the operations keep is kept
by every run of them. -/
namespace GuestHost

/-- All that the surroundings can do to a session. A poke writes straight into guest memory. -/
inductive Operation where
  | boot
  | reset
  | update (pads : Gamepads)
  | pointer (e : PointerEvent) (b : Bounds)
  | wheel (delta : Binary64)
  | key (e : KeyEvent)
  | connect (index : UInt32) (standard : Bool)
  | disconnect (index : UInt32)
  | save
  | restore
  | pull (chunk : Chunk)
  | dispatch (e : Event)
  | poke (addr : UInt32) (bytes : ByteArray)

namespace Session

/-- The session's side of a pull; the chunk goes back to its owner. -/
def pull (chunk : Chunk) : Act Error Session Unit :=
  fun s => let o := pullChunk (s, chunk)
    ⟨o.result, o.state.1, o.trace⟩

end Session

def Operation.act : Operation → Act Error Session Unit
  | .boot => Session.boot
  | .reset => Session.reset
  | .update pads => Session.update pads
  | .pointer e b => Session.pointer e b
  | .wheel delta => Session.wheel delta
  | .key e => Session.keyboard e
  | .connect index standard => do
    let _ ← Session.connect index standard
  | .disconnect index => Session.disconnect index
  | .save => Session.save
  | .restore => Session.restore
  | .pull chunk => Session.pull chunk
  | .dispatch e => do
    let _ ← Session.dispatch e
  | .poke addr bytes => Session.onVm (Vm.write addr bytes)

namespace Session

/-- One operation after another, whether or not they succeed. -/
def performAll : List Operation → Act Error Session Unit
  | [] => pure ()
  | op :: rest => do
    let _ : Except Error Unit ← Act.attempt op.act
    performAll rest

/-- A session as it comes from its construction. -/
def Created (s : Session) : Prop :=
  ∃ read engine config code rom surroundings,
    (create read engine config code rom surroundings ()).result = .ok s

variable {s : Session}

/-- Settings, image and guest have passed, and the rest of a new session does not depend on the
guest. -/
theorem create_ok {σ : Type} {read : Container.Assembler} {engine : Guest.Engine} {config : Config}
    {code rom : ByteArray} {surroundings : Surroundings} {st st' : σ} {t : List Output}
    (h : create read engine config code rom surroundings st = ⟨.ok s, st', t⟩) :
    config.validate = .ok () ∧ rom.size ≠ 0 ∧ ∃ guest vm t₀, engine.load read code = .ok guest ∧
      Vm.ofModule guest config.display surroundings.clock st = ⟨.ok vm, st', t₀⟩ ∧
      t = t₀ ++ [.note (.instantiated config.display.width config.display.height rom.size)] ∧
      s = {
        config, vm, rom
        input := { display := config.display }
        audio := .ofDevice surroundings.device } := by
  unfold create at h
  cases hv : config.validate with
  | error e =>
    rw [hv] at h
    cases h
  | ok a =>
    simp only [hv] at h
    by_cases hr : rom.size = 0
    · rw [if_pos hr] at h
      cases h
    · rw [if_neg hr] at h
      refine ⟨rfl, hr, ?_⟩
      obtain ⟨guest, st₀, t₀, t₁, hload, hrest, rfl⟩ := Act.parts_of_bind h
      obtain ⟨vm, st₁, t₂, t₃, hvm, hlast, rfl⟩ := Act.parts_of_bind hrest
      cases hl : engine.load read code with
      | error e =>
        rw [hl] at hload
        cases hload
      | ok guest =>
        rw [hl] at hload
        cases hload
        cases hlast
        exact ⟨guest, vm, t₂, rfl, hvm, rfl, rfl⟩

/-- A new session holds nothing and has saved nothing. -/
theorem Created.fresh (h : s.Created) :
    s.input = { display := s.config.display } ∧ s.lifecycle = .unbooted ∧ s.snapshot = none := by
  obtain ⟨read, engine, config, code, rom, surroundings, h⟩ := h
  obtain ⟨-, -, guest, vm, t₀, -, -, -, rfl⟩ := create_ok (Act.eq_of_result h)
  exact ⟨rfl, rfl, rfl⟩

theorem performAll_cons (op : Operation) (rest : List Operation) (s : Session) :
    performAll (op :: rest) s =
      ⟨(performAll rest (op.act s).state).result, (performAll rest (op.act s).state).state,
        (op.act s).trace ++ (performAll rest (op.act s).state).trace⟩ := rfl

theorem act_dispatch (e : Event) (s : Session) :
    (Operation.dispatch e).act s =
      ⟨(dispatch e s).result.map fun _ => (), (dispatch e s).state, (dispatch e s).trace⟩ :=
  Act.bind_pure_apply (dispatch e) (fun _ => ()) s

/-- What is not fatal is dropped; the session and what it said stay as they are. -/
theorem dispatch_of_ok {e : Event} {s' : Session} {t : List Output}
    (h : perform e s = ⟨.ok (), s', t⟩) : dispatch e s = ⟨.ok e.disposition, s', t⟩ := by
  have ha : Act.attempt (perform e) s = (⟨.ok (.ok ()), s', t⟩ : Outcome Error _ _) := by
    simp only [Act.attempt, h]
  rw [dispatch, Act.bind_of_ok ha]
  change (⟨_, _, t ++ []⟩ : Outcome _ _ _) = _
  rw [List.append_nil]
  rfl

theorem dispatch_of_fatal {e : Event} {s' : Session} {t : List Output} {err : Error}
    (h : perform e s = ⟨.error err, s', t⟩) (hf : err.isFatal = true) :
    dispatch e s = ⟨.error err, s', t⟩ := by
  have ha : Act.attempt (perform e) s = (⟨.ok (.error err), s', t⟩ : Outcome Error _ _) := by
    simp only [Act.attempt, h]
  rw [dispatch, Act.bind_of_ok ha]
  simp only [hf, if_true, Act.fail_bind, Act.fail, List.append_nil]

theorem dispatch_of_dropped {e : Event} {s' : Session} {t : List Output} {err : Error}
    (h : perform e s = ⟨.error err, s', t⟩) (hf : err.isFatal = false) :
    dispatch e s = ⟨.ok e.disposition, s', t ++ [.note (.ignored err)]⟩ := by
  have ha : Act.attempt (perform e) s = (⟨.ok (.error err), s', t⟩ : Outcome Error _ _) := by
    simp only [Act.attempt, h]
  rw [dispatch, Act.bind_of_ok ha]
  simp only [hf, Bool.false_eq_true, if_false]
  rfl

/-- What an event's source hears of the outcome. -/
def settled (e : Event) : Except Error Unit → Except Error Disposition
  | .ok () => .ok e.disposition
  | .error err => if err.isFatal then .error err else .ok e.disposition

theorem result_dispatch (e : Event) (s : Session) :
    (dispatch e s).result = settled e (perform e s).result := by
  rcases hp : perform e s with ⟨err | _, s', t⟩
  · cases hf : err.isFatal with
    | true => rw [dispatch_of_fatal hp hf, settled, if_pos hf]
    | false => rw [dispatch_of_dropped hp hf, settled, hf, if_neg Bool.false_ne_true]
  · rw [dispatch_of_ok hp, settled]

/-- Dispatching adds to an operation at most the note that its error was dropped. -/
theorem dispatch_same (e : Event) (s : Session) :
    (dispatch e s).state = (perform e s).state ∧
      ((dispatch e s).trace = (perform e s).trace ∨
        ∃ err, (dispatch e s).trace = (perform e s).trace ++ [.note (.ignored err)]) := by
  rcases hp : perform e s with ⟨err | _, s', t⟩
  · cases hf : err.isFatal with
    | true =>
      rw [dispatch_of_fatal hp hf]
      exact ⟨rfl, .inl rfl⟩
    | false =>
      rw [dispatch_of_dropped hp hf]
      exact ⟨rfl, .inr ⟨err, rfl⟩⟩
  · rw [dispatch_of_ok hp]
    exact ⟨rfl, .inl rfl⟩

end Session

/-- A function that always gives one and the same number, exported under the name of an entry
point. -/
def Entry.answering (e : Entry) (a : UInt32) : String × Guest.Extern :=
  (e.name, .func (.own ⟨[], [.i32]⟩ fun _ => .ret (a, ())))

namespace Guest

/-- A guest with so many pages of memory that does no more than it must, but for what it exports
besides. -/
def Module.bare (pages : Nat) (init : Code Unit) (others : Exports) : Module where
  imports := hostImports
  memory := some ⟨pages, none⟩
  exports := [
    (memoryName, .memory),
    (Entry.init.name, .func (.own ⟨[], []⟩ fun _ => init)),
    (Entry.onUpdate.name, .func (.own ⟨[], []⟩ fun _ => .ret ())),
    Entry.getRomPtr.answering 0] ++ others

/-- An engine that takes the header of a module for this guest and knows no other bytes. -/
def Module.engine (guest : Module) : Engine :=
  fun binary => if binary = Container.emptyModule then .ok guest else .error ["unknown module"]

theorem Module.engine_emptyModule (guest : Module) :
    guest.engine Container.emptyModule = .ok guest :=
  if_pos rfl

theorem Module.eq_of_engine {guest guest' : Module} {binary : ByteArray}
    (h : guest.engine binary = .ok guest') : guest' = guest := by
  unfold engine at h
  split at h <;> cases h
  rfl

end Guest

namespace Session

/-- The session of a guest that has neither data nor a start function, with an image of one byte. -/
def ofGuest (guest : Guest.Module) : Session where
  config := {}
  vm := {
    machine := .ofModule guest guest.blankMemory {} fun _ => ⟨1970, 1, 1, 0, 0, 0, 0⟩
    entry := Guest.Exports.entries guest.exports }
  rom := ⟨#[0xa0]⟩
  input := { display := {} }
  audio := .ofDevice none

theorem created_ofGuest (pages : Nat) (init : Code Unit) (others : Guest.Exports) :
    (ofGuest (.bare pages init others)).Created :=
  ⟨fun _ => none, (Guest.Module.bare pages init others).engine, {}, Container.emptyModule,
    ⟨#[0xa0]⟩, ⟨_, none⟩, rfl⟩

/-- The session of a guest with a page of memory that does nothing until it is asked. -/
def bare (others : Guest.Exports) : Session :=
  ofGuest (.bare 1 (.ret ()) others)

theorem bare_created (others : Guest.Exports) : (bare others).Created :=
  created_ofGuest _ _ _

end Session

/-- A guest with a page of memory and a state of four bytes, which has no use for keys. -/
def Guest.Module.quiet : Guest.Module :=
  .bare 1 (.ret ()) [
    (Entry.onKeyboardEvent.name, .func (.own ⟨[.i32, .i32], []⟩ fun _ => .ret ())),
    Entry.getStatePtr.answering 16,
    Entry.getStateSize.answering 4]

def Session.quiet : Session :=
  ofGuest .quiet

theorem Session.quiet_created : quiet.Created :=
  bare_created _

end GuestHost
