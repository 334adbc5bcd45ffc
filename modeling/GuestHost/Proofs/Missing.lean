import GuestHost.Proofs.Dealing
import GuestHost.Proofs.Guest.Exports

/-! What errors say about missing entry points, as far as the guest alone is used. -/
namespace GuestHost

/-- What an error says about missing entry points is true of a guest with these exports, but for one
that has only the first half of what declares a state: that half is named whichever is missing. -/
structure Guest.Exports.BearsOut (exports : Guest.Exports) (e : Error) : Prop where
  required : ∀ name, e = .missingExport name → ¬exports.OffersName name
  feature : ∀ name, e = .unsupported name → name = Entry.getStatePtr.name ∧
    (exports.OffersName name ↔ exports.PointsOnly)

theorem Guest.Exports.bearsOut_of_grave (exports : Guest.Exports) {e : Error} (h : e.Grave) :
    exports.BearsOut e := by
  obtain h | rfl := h
  · constructor <;> rintro name rfl <;> cases h
  · exact ⟨nofun, nofun⟩

theorem Guest.Exports.bearsOut_missingExport {exports : Guest.Exports} {e : Entry}
    (h : ¬exports.Offers e) : exports.BearsOut (.missingExport e.name) := by
  refine ⟨?_, nofun⟩
  rintro name ⟨⟩
  rwa [Guest.offersName_iff]

theorem Guest.Exports.Resolves.bearsOut {exports : Guest.Exports} {g : Guest.Entrypoints}
    (h : exports.Resolves g) (hg : g.statePtr = none ∨ g.stateSize = none) :
    exports.BearsOut (.unsupported Entry.getStatePtr.name) where
  required := nofun
  feature := by
    rintro name ⟨⟩
    refine ⟨rfl, ?_⟩
    rw [Guest.offersName_iff, h.pointsOnly_iff hg]

namespace Vm

/-- All that can be done to a guest from outside. -/
inductive Operation where
  | init
  | runMain
  | update
  | pointer (i : PointerInput)
  | wheel (delta : Binary64)
  | keyboard (i : KeyboardInput)
  | romAddress
  | declaredState
  | samplesAddress
  | read (addr : UInt32) (len : Nat)
  | write (addr : UInt32) (bytes : ByteArray)
  | flushConsole
  | take
  | restore (snapshot : Snapshot)

def Operation.act : Operation → Act Error Vm Unit
  | .init => Vm.init
  | .runMain => do
    let _ ← Vm.runMain
  | .update => Vm.update
  | .pointer i => Vm.pointer i
  | .wheel delta => Vm.wheel delta
  | .keyboard i => Vm.keyboard i
  | .romAddress => do
    let _ ← Vm.romAddress
  | .declaredState => do
    let _ ← Vm.declaredState
  | .samplesAddress => do
    let _ ← Vm.samplesAddress
  | .read addr len => do
    let _ ← Vm.read addr len
  | .write addr bytes => Vm.write addr bytes
  | .flushConsole => Vm.flushConsole
  | .take => do
    let _ ← Snapshot.take
  | .restore snapshot => snapshot.restore

/-- One operation after another, whether or not they succeed. -/
def performAll : List Operation → Act Error Vm Unit
  | [] => pure ()
  | op :: rest => do
    let _ : Except Error Unit ← Act.attempt op.act
    performAll rest

theorem performAll_cons (op : Operation) (rest : List Operation) (vm : Vm) :
    performAll (op :: rest) vm =
      ⟨(performAll rest (op.act vm).state).result, (performAll rest (op.act vm).state).state,
        (op.act vm).trace ++ (performAll rest (op.act vm).state).trace⟩ := rfl

theorem follows_act (op : Operation) (g : Guest.Entrypoints) :
    Act.Follows (LeadsBy Error.Dealing g) op.act := by
  have huses : Uses Error.Dealing g (LeadsBy Error.Dealing g) :=
    LeadsBy.uses Error.Integration.dealing
  have hdiscard : ∀ {α : Type} {x : Act Error Vm α}, Act.Follows (LeadsBy Error.Dealing g) x →
      Act.Follows (LeadsBy Error.Dealing g) (x >>= fun _ => pure ()) :=
    fun hx => .bind LeadsBy.flow hx fun _ => .pure LeadsBy.flow ()
  cases op with
  | init => exact huses.init
  | runMain => exact hdiscard huses.runMain
  | update => exact huses.update
  | pointer i => exact huses.pointer i
  | wheel delta => exact huses.wheel delta
  | keyboard i => exact huses.keyboard i
  | romAddress => exact hdiscard huses.romAddress
  | declaredState => exact hdiscard huses.declaredState
  | samplesAddress => exact hdiscard huses.samplesAddress
  | read addr len => exact hdiscard (huses.read addr len)
  | write addr bytes => exact .write Error.Integration.dealing addr bytes
  | flushConsole => exact .flushConsole
  | take => exact hdiscard (huses.take (.inr rfl))
  | restore snapshot => exact .restore Error.Integration.dealing (.inr rfl) snapshot

theorem exists_course (op : Operation) (vm : Vm) :
    ∃ vs, Course vm vs (op.act vm).trace (op.act vm).result (op.act vm).state := by
  obtain ⟨vs, hvs⟩ := (follows_act op vm.entry vm).leads rfl
  rw [Act.map_unit] at hvs
  exact ⟨vs, hvs⟩

/-- An error is that of what the guest ran, or the host's own. -/
theorem Course.grave_or_refuses {vm vm' : Vm} {vs : List Visit} {t : List Output}
    {r : Except Error Unit} {e : Error} (h : Course vm vs t r vm') (hr : r = .error e) :
    e.Grave ∨ Refuses vm' e := by
  by_cases hfail : ∃ v ∈ vs, v.Failed
  · obtain ⟨v, hv, hfailed⟩ := hfail
    exact .inl (h.grave_of_failed hv hfailed hr)
  · exact .inr (h.refuses_of_error hr fun v hv hfailed => hfail ⟨v, hv, hfailed⟩)

theorem Course.bearsOut {exports : Guest.Exports} {vm vm' : Vm} {vs : List Visit}
    {t : List Output} {r : Except Error Unit} {e : Error} (h : Course vm vs t r vm')
    (hg : exports.Resolves vm.entry) (hr : r = .error e) : exports.BearsOut e := by
  rcases h.grave_or_refuses hr with hgrave | hrefuses
  · exact exports.bearsOut_of_grave hgrave
  · cases hrefuses with
    | faulted => exact exports.bearsOut_of_grave (.inl .faulted)
    | notRunning => exact ⟨nofun, nofun⟩
    | undeclared hnone =>
      rw [h.entry_eq] at hnone
      exact hg.bearsOut hnone
    | outside => exact exports.bearsOut_of_grave (.inl (.outOfRange _ _ _))

theorem Hosts.performAll {exports : Guest.Exports} {vm : Vm} (ops : List Operation)
    (h : Hosts exports vm) : Hosts exports (performAll ops vm).state := by
  induction ops generalizing vm with
  | nil => exact h
  | cons op rest ih =>
    obtain ⟨vs, hvs⟩ := exists_course op vm
    rw [performAll_cons]
    exact ih (h.course hvs)

/-- What needs the guest's state succeeds only where it is declared. -/
theorem Hosts.declaresState {exports : Guest.Exports} {vm : Vm} {r : UInt32 × UInt32}
    (h : Hosts exports vm) (hr : (Snapshot.region vm).result = .ok r) : exports.DeclaresState := by
  obtain ⟨-, m, ⟨askPtr, askSize, m₁, t₁, t₂, hptr, hsize, -, -⟩, -⟩ :=
    Snapshot.declares_of_region hr
  refine h.resolves.declaresState ?_ ?_
  · rw [hptr, Option.isSome_some]
  · rw [hsize, Option.isSome_some]

theorem Hosts.bearsOut {exports : Guest.Exports} {vm : Vm} (h : Hosts exports vm) (op : Operation)
    {e : Error} (he : (op.act vm).result = .error e) : exports.BearsOut e := by
  obtain ⟨vs, hvs⟩ := exists_course op vm
  exact hvs.bearsOut h.resolves he

end Vm

end GuestHost
