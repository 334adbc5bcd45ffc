import GuestHost.Proofs.Guest.Exports
import GuestHost.Proofs.Guest.Visit

/-! The look-up of all entry points as a whole. A guest that has what it must have gets through it,
with a note for each feature that it lacks; any other guest is stopped at the first entry point that
it must have and has not. -/
namespace GuestHost

/-- The entry points that a guest may lack, in the order in which they are looked up. -/
def Entry.features : List Entry :=
  [.onWheelEvent, .runMain, .onPointerEvent, .onKeyboardEvent, .getStatePtr, .getStateSize,
    .getAudioSamples]

namespace Guest

/-- Whether the entry point has been found. Three of them are always found. -/
def Entrypoints.has (g : Entrypoints) : Entry → Bool
  | .init | .onUpdate | .getRomPtr => true
  | .runMain => g.runMain.isSome
  | .onPointerEvent => g.onPointer.isSome
  | .onWheelEvent => g.onWheel.isSome
  | .onKeyboardEvent => g.onKeyboard.isSome
  | .getStatePtr => g.statePtr.isSome
  | .getStateSize => g.stateSize.isSome
  | .getAudioSamples => g.audioSamples.isSome

theorem Entrypoints.mem_features {g : Entrypoints} {e : Entry} (h : g.has e = false) :
    e ∈ Entry.features := by
  cases e <;> first | cases h | decide

section Found

variable {exports : Exports}

theorem pointer?_eq_none_iff : exports.pointer? = none ↔ ¬exports.Offers .onPointerEvent := by
  rw [Exports.pointer?, Option.map_eq_none_iff, func?_eq_none_iff_not_offers rfl]

theorem keyboard?_eq_none_iff : exports.keyboard? = none ↔ ¬exports.Offers .onKeyboardEvent := by
  rw [Exports.keyboard?, Option.map_eq_none_iff, func?_eq_none_iff_not_offers rfl]

/-- Either of the two types will do. -/
theorem wheel?_eq_none_iff : exports.wheel? = none ↔ ¬exports.Offers .onWheelEvent := by
  have hboth : exports.wheel? = none ↔
      func? exports Entry.onWheelEvent.name ⟨[.f64], []⟩ = none ∧
        func? exports Entry.onWheelEvent.name ⟨[.i32], []⟩ = none := by
    unfold Exports.wheel?
    cases func? exports Entry.onWheelEvent.name ⟨[.f64], []⟩ with
    | some f => exact iff_of_false nofun fun h => nomatch h.1
    | none => rw [Option.map_eq_none_iff, and_iff_right rfl]
  rw [hboth, func?_eq_none_iff, func?_eq_none_iff, Exports.Offers]
  constructor
  · rintro ⟨hfloat, hint⟩ ⟨f, hf, htype⟩
    rcases List.mem_cons.mp htype with ht | ht
    · exact hfloat f hf ht
    · exact hint f hf (List.mem_singleton.mp ht)
  · intro h
    exact ⟨fun f hf ht => h ⟨f, hf, List.mem_cons.mpr (.inl ht)⟩,
      fun f hf ht => h ⟨f, hf, List.mem_cons_of_mem _ (List.mem_singleton.mpr ht)⟩⟩

theorem isSome_iff_of_none {α : Type} {found : Option α} {P : Prop} (h : found = none ↔ ¬P) :
    found.isSome = true ↔ P := by
  rw [Option.isSome_iff_ne_none, Ne, h, Classical.not_not]

/-- Each entry point is found exactly if it is offered. -/
theorem Exports.Resolves.has_iff {g : Entrypoints} (h : exports.Resolves g) (e : Entry) :
    g.has e = true ↔ exports.Offers e := by
  cases e with
  | init => exact iff_of_true rfl h.complete.init
  | onUpdate => exact iff_of_true rfl h.complete.onUpdate
  | getRomPtr => exact iff_of_true rfl h.complete.romPtr
  | runMain =>
    rw [Entrypoints.has, h.runMain]
    exact isSome_action?_iff rfl
  | onPointerEvent =>
    rw [Entrypoints.has, h.onPointer]
    exact isSome_iff_of_none pointer?_eq_none_iff
  | onWheelEvent =>
    rw [Entrypoints.has, h.onWheel]
    exact isSome_iff_of_none wheel?_eq_none_iff
  | onKeyboardEvent =>
    rw [Entrypoints.has, h.onKeyboard]
    exact isSome_iff_of_none keyboard?_eq_none_iff
  | getStatePtr =>
    rw [Entrypoints.has, h.statePtr]
    exact isSome_query?_iff rfl
  | getStateSize =>
    rw [Entrypoints.has, h.stateSize]
    exact isSome_query?_iff rfl
  | getAudioSamples =>
    rw [Entrypoints.has, h.audioSamples]
    exact isSome_query?_iff rfl

end Found

section Notes

variable {g : Entrypoints} {e : Entry}

/-- The notes about the features among `es` that have not been found. -/
def Entrypoints.lackNotes (g : Entrypoints) (es : List Entry) : List Output :=
  (es.filter fun e => !g.has e).map fun e => .note (.exportMissing e)

theorem Entrypoints.lackNotes_cons (g : Entrypoints) (e : Entry) (es : List Entry) :
    g.lackNotes (e :: es) =
      (if g.has e = false then [.note (.exportMissing e)] else []) ++ g.lackNotes es := by
  unfold lackNotes
  cases he : g.has e <;> simp [he]

theorem Entrypoints.fromHost_lackNotes (g : Entrypoints) (es : List Entry) :
    ∀ o ∈ g.lackNotes es, o.fromHost = true := by
  intro o ho
  obtain ⟨e, -, rfl⟩ := List.mem_map.mp ho
  rfl

theorem Entrypoints.mem_lackNotes_features :
    .note (.exportMissing e) ∈ g.lackNotes Entry.features ↔ g.has e = false := by
  simp only [lackNotes, List.mem_map, List.mem_filter, Bool.not_eq_true', Output.note.injEq,
    Notice.exportMissing.injEq, exists_eq_right]
  exact ⟨And.right, fun h => ⟨mem_features h, h⟩⟩

theorem Entrypoints.nodup_lackNotes_features (g : Entrypoints) :
    (g.lackNotes Entry.features).Nodup := by
  have hfeatures : Entry.features.Nodup := by decide
  refine List.Pairwise.map _ (fun e e' h => ?_) (hfeatures.filter _)
  simpa using h

end Notes

section Lookup

variable {σ : Type} {exports : Exports}

theorem required_some_bind {α β : Type} (e : Entry) (a : α) (f : α → Act Error σ β) :
    (required e (some a) >>= f) = f a := rfl

theorem required_none_bind {α β : Type} (e : Entry) (f : α → Act Error σ β) :
    (required e none >>= f) = Act.fail (.missingExport e.name) := rfl

theorem feature_bind {α β : Type} (e : Entry) (found : Option α)
    (f : Option α → Act Error σ β) (st : σ) : (feature e found >>= f) st =
      ⟨(f found st).result, (f found st).state,
        (if found.isSome = false then [.note (.exportMissing e)] else []) ++
          (f found st).trace⟩ := by
  cases found <;> rfl

theorem entrypoints_of_complete (h : exports.Complete) (st : σ) :
    exports.Resolves exports.entries ∧ (exports.entrypoints : Act Error σ Entrypoints) st =
      ⟨.ok exports.entries, st, exports.entries.lackNotes Entry.features⟩ := by
  obtain ⟨init, hinit⟩ := Option.isSome_iff_exists.mp ((isSome_action?_iff rfl).mpr h.init)
  obtain ⟨onUpdate, hupdate⟩ :=
    Option.isSome_iff_exists.mp ((isSome_action?_iff rfl).mpr h.onUpdate)
  obtain ⟨romPtr, hrom⟩ := Option.isSome_iff_exists.mp ((isSome_query?_iff rfl).mpr h.romPtr)
  have hresolves : exports.Resolves exports.entries := {
    init := by rw [Exports.entries, hinit, Option.getD_some]
    runMain := rfl
    onUpdate := by rw [Exports.entries, hupdate, Option.getD_some]
    onPointer := rfl
    onWheel := rfl
    onKeyboard := rfl
    romPtr := by rw [Exports.entries, hrom, Option.getD_some]
    statePtr := rfl
    stateSize := rfl
    audioSamples := rfl }
  refine ⟨hresolves, ?_⟩
  simp only [Exports.entrypoints, hinit, hupdate, hrom, required_some_bind, feature_bind,
    Entry.features, Entrypoints.lackNotes_cons, Exports.entries, Option.getD_some]
  rfl

/-- The first of the required entry points that is not offered. -/
inductive Exports.LacksFirst (exports : Exports) : Entry → Prop
  | init (h : ¬exports.Offers .init) : LacksFirst exports .init
  | onUpdate (hinit : exports.Offers .init) (h : ¬exports.Offers .onUpdate) :
      LacksFirst exports .onUpdate
  | romPtr (hinit : exports.Offers .init) (hupdate : exports.Offers .onUpdate)
      (h : ¬exports.Offers .getRomPtr) : LacksFirst exports .getRomPtr

theorem complete_or_lacksFirst (exports : Exports) :
    exports.Complete ∨ ∃ e, exports.LacksFirst e := by
  by_cases hinit : exports.Offers .init
  · by_cases hupdate : exports.Offers .onUpdate
    · by_cases hrom : exports.Offers .getRomPtr
      · exact .inl ⟨hinit, hupdate, hrom⟩
      · exact .inr ⟨_, .romPtr hinit hupdate hrom⟩
    · exact .inr ⟨_, .onUpdate hinit hupdate⟩
  · exact .inr ⟨_, .init hinit⟩

theorem entrypoints_of_lacksFirst {e : Entry} (h : exports.LacksFirst e) (st : σ) :
    ((exports.entrypoints : Act Error σ Entrypoints) st).result =
      .error (.missingExport e.name) := by
  have hfound : ∀ {e}, e.types = [⟨[], []⟩] → exports.Offers e →
      ∃ routine, exports.action? e = some routine := fun ht ho =>
    Option.isSome_iff_exists.mp ((isSome_action?_iff ht).mpr ho)
  rw [Exports.entrypoints, feature_bind]
  cases h with
  | init h => rw [(action?_eq_none_iff rfl).mpr h, required_none_bind, Act.fail]
  | onUpdate hinit h =>
    obtain ⟨init, hinit⟩ := hfound rfl hinit
    rw [hinit, required_some_bind, feature_bind, (action?_eq_none_iff rfl).mpr h,
      required_none_bind, Act.fail]
  | romPtr hinit hupdate h =>
    obtain ⟨init, hinit⟩ := hfound rfl hinit
    obtain ⟨onUpdate, hupdate⟩ := hfound rfl hupdate
    rw [hinit, required_some_bind, feature_bind, hupdate, required_some_bind, feature_bind,
      feature_bind, (query?_eq_none_iff rfl).mpr h, required_none_bind, Act.fail]

end Lookup

end Guest

end GuestHost
