import GuestHost.Guest.Entrypoints
import GuestHost.Proofs.Act

/-! Which entry points a guest offers: those that it exports under their name with a type that the
host accepts. What is found when they are looked up is exactly what is offered. -/
namespace GuestHost

/-- The types that the host accepts for an entry point. -/
def Entry.types : Entry → List Guest.FuncType
  | .init | .runMain | .onUpdate => [⟨[], []⟩]
  | .onPointerEvent => [⟨[.i32, .i32, .i32], []⟩]
  | .onWheelEvent => [⟨[.f64], []⟩, ⟨[.i32], []⟩]
  | .onKeyboardEvent => [⟨[.i32, .i32], []⟩]
  | .getRomPtr | .getStatePtr | .getStateSize | .getAudioSamples => [⟨[], [.i32]⟩]

theorem Entry.name_inj {e e' : Entry} : e.name = e'.name ↔ e = e' := by
  refine ⟨fun h => ?_, congrArg _⟩
  revert h
  cases e <;> cases e' <;> decide

namespace Guest

namespace Exports

/-- A function is exported under the name of the entry point, with a type that the host accepts. -/
def Offers (exports : Exports) (e : Entry) : Prop :=
  ∃ f : Func, exports.lookup e.name = some (.func f) ∧ f.type ∈ e.types

/-- Some entry point of this name is offered. -/
def OffersName (exports : Exports) (name : String) : Prop :=
  ∃ e : Entry, e.name = name ∧ exports.Offers e

/-- What every guest must offer. -/
structure Complete (exports : Exports) : Prop where
  init : exports.Offers .init
  onUpdate : exports.Offers .onUpdate
  romPtr : exports.Offers .getRomPtr

/-- Two entry points together declare a state. -/
structure DeclaresState (exports : Exports) : Prop where
  ptr : exports.Offers .getStatePtr
  size : exports.Offers .getStateSize

/-- The first of the two, without the other. -/
structure PointsOnly (exports : Exports) : Prop where
  ptr : exports.Offers .getStatePtr
  size : ¬exports.Offers .getStateSize

/-- The entry points are those that the guest exports. -/
structure Resolves (exports : Exports) (g : Entrypoints) : Prop where
  init : exports.action? .init = some g.init
  runMain : g.runMain = exports.action? .runMain
  onUpdate : exports.action? .onUpdate = some g.onUpdate
  onPointer : g.onPointer = exports.pointer?
  onWheel : g.onWheel = exports.wheel?
  onKeyboard : g.onKeyboard = exports.keyboard?
  romPtr : exports.query? .getRomPtr = some g.romPtr
  statePtr : g.statePtr = exports.query? .getStatePtr
  stateSize : g.stateSize = exports.query? .getStateSize
  audioSamples : g.audioSamples = exports.query? .getAudioSamples

/-- The entry points of a guest that exports those it must. -/
def entries (exports : Exports) : Entrypoints where
  init := (exports.action? .init).getD (.own (.ret ()))
  runMain := exports.action? .runMain
  onUpdate := (exports.action? .onUpdate).getD (.own (.ret ()))
  onPointer := exports.pointer?
  onWheel := exports.wheel?
  onKeyboard := exports.keyboard?
  romPtr := (exports.query? .getRomPtr).getD (.own (.ret 0))
  statePtr := exports.query? .getStatePtr
  stateSize := exports.query? .getStateSize
  audioSamples := exports.query? .getAudioSamples

end Exports

variable {exports : Exports} {e : Entry} {t : FuncType}

theorem typed?_eq_none_iff {f : Func} : f.typed? t = none ↔ f.type ≠ t := by
  unfold Func.typed?
  split <;> simp_all

theorem func?_eq_none_iff {name : String} :
    func? exports name t = none ↔
      ∀ f : Func, exports.lookup name = some (.func f) → f.type ≠ t := by
  unfold func?
  split
  · next f hf =>
    rw [typed?_eq_none_iff, hf]
    refine ⟨fun h f' hf' => ?_, fun h => h f rfl⟩
    cases hf'
    exact h
  · next hnone => exact iff_of_true rfl fun f hf => absurd hf (hnone f)

theorem func?_eq_none_iff_not_offers (h : e.types = [t]) :
    func? exports e.name t = none ↔ ¬exports.Offers e := by
  rw [func?_eq_none_iff, Exports.Offers, h]
  simp only [List.mem_singleton, not_exists, not_and]

theorem action?_eq_none_iff (h : e.types = [⟨[], []⟩]) :
    exports.action? e = none ↔ ¬exports.Offers e := by
  rw [Exports.action?, Option.map_eq_none_iff, func?_eq_none_iff_not_offers h]

theorem query?_eq_none_iff (h : e.types = [⟨[], [.i32]⟩]) :
    exports.query? e = none ↔ ¬exports.Offers e := by
  rw [Exports.query?, Option.map_eq_none_iff, func?_eq_none_iff_not_offers h]

theorem isSome_action?_iff (h : e.types = [⟨[], []⟩]) :
    (exports.action? e).isSome = true ↔ exports.Offers e := by
  rw [Option.isSome_iff_ne_none, Ne, action?_eq_none_iff h, Classical.not_not]

theorem isSome_query?_iff (h : e.types = [⟨[], [.i32]⟩]) :
    (exports.query? e).isSome = true ↔ exports.Offers e := by
  rw [Option.isSome_iff_ne_none, Ne, query?_eq_none_iff h, Classical.not_not]

namespace Exports.Resolves

variable {g : Entrypoints} (h : exports.Resolves g)
include h

theorem complete : exports.Complete where
  init := (isSome_action?_iff rfl).mp (by rw [h.init, Option.isSome_some])
  onUpdate := (isSome_action?_iff rfl).mp (by rw [h.onUpdate, Option.isSome_some])
  romPtr := (isSome_query?_iff rfl).mp (by rw [h.romPtr, Option.isSome_some])

theorem declaresState (hptr : g.statePtr.isSome = true) (hsize : g.stateSize.isSome = true) :
    exports.DeclaresState where
  ptr := (isSome_query?_iff rfl).mp (h.statePtr ▸ hptr)
  size := (isSome_query?_iff rfl).mp (h.stateSize ▸ hsize)

theorem pointsOnly_iff (hg : g.statePtr = none ∨ g.stateSize = none) :
    exports.PointsOnly ↔ exports.Offers .getStatePtr := by
  refine ⟨PointsOnly.ptr, fun hptr => ⟨hptr, ?_⟩⟩
  rcases hg with hnone | hnone
  · rw [h.statePtr] at hnone
    exact absurd hptr ((query?_eq_none_iff rfl).mp hnone)
  · rw [h.stateSize] at hnone
    exact (query?_eq_none_iff rfl).mp hnone

end Exports.Resolves

theorem offersName_iff : exports.OffersName e.name ↔ exports.Offers e := by
  constructor
  · rintro ⟨e', hname, ho⟩
    rwa [← Entry.name_inj.mp hname]
  · exact fun ho => ⟨e, rfl, ho⟩

section Lookup

variable {σ α : Type} {st st' : σ} {out : List Output}

theorem required_ok {found : Option α} {a : α}
    (h : (required e found : Act Error σ α) st = ⟨.ok a, st', out⟩) : found = some a := by
  cases found with
  | none => cases h
  | some b =>
    cases h
    rfl

theorem feature_ok {found r : Option α}
    (h : (feature e found : Act Error σ (Option α)) st = ⟨.ok r, st', out⟩) : r = found := by
  cases h
  rfl

theorem entrypoints_ok {g : Entrypoints}
    (h : (exports.entrypoints : Act Error σ Entrypoints) st = ⟨.ok g, st', out⟩) :
    exports.Resolves g := by
  unfold Exports.entrypoints at h
  obtain ⟨onWheel, st₁, t₁, u₁, hwheel, h, -⟩ := Act.parts_of_bind h
  obtain ⟨init, st₂, t₂, u₂, hinit, h, -⟩ := Act.parts_of_bind h
  obtain ⟨runMain, st₃, t₃, u₃, hmain, h, -⟩ := Act.parts_of_bind h
  obtain ⟨onUpdate, st₄, t₄, u₄, hupdate, h, -⟩ := Act.parts_of_bind h
  obtain ⟨onPointer, st₅, t₅, u₅, hpointer, h, -⟩ := Act.parts_of_bind h
  obtain ⟨onKeyboard, st₆, t₆, u₆, hkeyboard, h, -⟩ := Act.parts_of_bind h
  obtain ⟨romPtr, st₇, t₇, u₇, hrom, h, -⟩ := Act.parts_of_bind h
  obtain ⟨statePtr, st₈, t₈, u₈, hptr, h, -⟩ := Act.parts_of_bind h
  obtain ⟨stateSize, st₉, t₉, u₉, hsize, h, -⟩ := Act.parts_of_bind h
  obtain ⟨audioSamples, st₁₀, t₁₀, u₁₀, haudio, h, -⟩ := Act.parts_of_bind h
  cases h
  exact {
    init := required_ok hinit
    runMain := feature_ok hmain
    onUpdate := required_ok hupdate
    onPointer := feature_ok hpointer
    onWheel := feature_ok hwheel
    onKeyboard := feature_ok hkeyboard
    romPtr := required_ok hrom
    statePtr := feature_ok hptr
    stateSize := feature_ok hsize
    audioSamples := feature_ok haudio }

/-- An error, if there is one, is that an entry point is required which the guest does not offer. -/
def Misses (exports : Exports) (_ : σ) (_ : List Output) (r : Except Error Unit) (_ : σ) : Prop :=
  ∀ err, r = .error err → ∃ e : Entry, err = .missingExport e.name ∧ ¬exports.Offers e

namespace Misses

theorem flow : Act.Flow (Misses exports : σ → _) where
  refl _ := nofun
  trans _ h' := h'

theorem feature (found : Option α) :
    Act.Follows (Misses exports) (feature e found : Act Error σ (Option α)) :=
  fun _ => nofun

theorem required {found : Option α} (h : found = none → ¬exports.Offers e) :
    Act.Follows (Misses exports) (required e found : Act Error σ α) := by
  intro st err herr
  cases found with
  | none =>
    cases herr
    exact ⟨e, rfl, h rfl⟩
  | some a => cases herr

theorem entrypoints :
    Act.Follows (Misses exports) (exports.entrypoints : Act Error σ Entrypoints) := by
  have action {e : Entry} (h : e.types = [⟨[], []⟩]) :
      Act.Follows (Misses exports) (Guest.required e (exports.action? e) : Act Error σ _) :=
    required (action?_eq_none_iff h).mp
  refine .bind flow (feature _) fun _ => .bind flow (action rfl) fun _ => ?_
  refine .bind flow (feature _) fun _ => .bind flow (action rfl) fun _ => ?_
  refine .bind flow (feature _) fun _ => .bind flow (feature _) fun _ => ?_
  refine .bind flow (required (query?_eq_none_iff rfl).mp) fun _ => ?_
  refine .bind flow (feature _) fun _ => .bind flow (feature _) fun _ => ?_
  exact .bind flow (feature _) fun _ => .pure flow _

end Misses

theorem entrypoints_error {err : Error}
    (h : (exports.entrypoints : Act Error σ Entrypoints) st = ⟨.error err, st', out⟩) :
    ∃ e : Entry, err = .missingExport e.name ∧ ¬exports.Offers e := by
  have hmisses : Misses exports st _ _ _ := Misses.entrypoints st
  rw [h] at hmisses
  exact hmisses err rfl

end Lookup

end Guest

end GuestHost
