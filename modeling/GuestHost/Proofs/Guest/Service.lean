import GuestHost.Proofs.Guest.Exports
import GuestHost.Proofs.Guest.Stop
import GuestHost.Proofs.Guest.Visit

/-! Services that a guest hands on under the name of an entry point. The host that calls such a
service finds no memory for it, although the guest exports one. -/
namespace GuestHost

def HostCall.service : HostCall → Guest.Service
  | .printChar _ => .printChar
  | .printStr _ => .printStr
  | .render _ _ => .render
  | .getDateTime _ => .getDateTime

namespace Routine

/-- What there is to run is a single call of a service, and the host itself makes it. -/
def Asks (r : Routine Unit) (c : HostCall) : Prop :=
  r = ⟨.host, .host c (.ret ())⟩

variable {r : Routine Unit} {c : HostCall}

/-- Only a character is printed without a memory. -/
theorem Asks.result_run (h : r.Asks c) (m : Machine) : (r.run m).result =
    if c.service = .printChar then .ok () else .error (.refused .missingMemory) := by
  subst h
  cases hc : c.usesMemory with
  | false =>
    cases c with
    | printChar code => rfl
    | _ => cases hc
  | true =>
    have hother : c.service ≠ .printChar := by
      cases c with
      | printChar code => cases hc
      | _ => exact nofun
    rw [if_neg hother]
    simp only [run, Code.run, Machine.answer_of_homeless m.finds_host hc]

end Routine

namespace Guest

/-- What the guest exports under the name of the entry point is a service that it has imported. -/
structure Exports.HandsOn (exports : Exports) (s : Service) (e : Entry) : Prop where
  exported : exports.lookup e.name = some (.func (.service s))
  accepted : s.type ∈ e.types

variable {exports : Exports} {e : Entry} {t : FuncType}

/-- No other entry point has the type of a service. -/
theorem Exports.HandsOn.entry_eq {s : Service} (h : exports.HandsOn s e) :
    e = if s = .render then .onKeyboardEvent else .onWheelEvent := by
  have htype := h.accepted
  revert htype
  cases s <;> cases e <;> decide

theorem Service.exists_discard_eq (s : Service) (args : Tuple s.type.params) :
    ∃ c : HostCall, c.service = s ∧ (s.code args).discard = .host c (.ret ()) := by
  cases s with
  | printChar => exact ⟨.printChar args.1, rfl, rfl⟩
  | printStr => exact ⟨.printStr args.1, rfl, rfl⟩
  | render => exact ⟨.render args.1 args.2.1, rfl, rfl⟩
  | getDateTime => exact ⟨.getDateTime args.1, rfl, rfl⟩

/-- Behind a function of the guest's own there is nothing for the host to call by itself. -/
theorem handsOn_of_func? {run : Tuple t.params → Routine (Tuple t.results)} (ht : t ∈ e.types)
    (h : func? exports e.name t = some run) {args : Tuple t.params}
    (hcaller : (run args).caller = .host) :
    ∃ c : HostCall, exports.HandsOn c.service e ∧ (run args).discard.Asks c := by
  unfold func? at h
  split at h
  · next f hf =>
    unfold Func.typed? at h
    split at h
    · next htype =>
      subst htype
      cases h
      cases f with
      | own type run => cases hcaller
      | service s =>
        obtain ⟨c, rfl, hc⟩ := s.exists_discard_eq args
        exact ⟨c, ⟨hf, ht⟩, congrArg (Routine.mk .host) hc⟩
    · cases h
  · cases h

theorem handsOn_of_handler {params : List ValType} {run : Tuple params → Routine Unit}
    (ht : ⟨params, []⟩ ∈ e.types) (h : func? exports e.name ⟨params, []⟩ = some run)
    {args : Tuple params} (hcaller : (run args).caller = .host) :
    ∃ c : HostCall, exports.HandsOn c.service e ∧ (run args).Asks c := by
  rw [← Routine.discard_unit (run args)]
  exact handsOn_of_func? ht h hcaller

theorem handsOn_of_action? {r : Routine Unit} (ht : e.types = [⟨[], []⟩])
    (h : exports.action? e = some r) (hcaller : r.caller = .host) :
    ∃ c : HostCall, exports.HandsOn c.service e ∧ r.Asks c := by
  obtain ⟨run, hrun, rfl⟩ := Option.map_eq_some_iff.mp h
  have hmem : ⟨[], []⟩ ∈ e.types := ht ▸ List.mem_singleton_self _
  exact handsOn_of_handler hmem hrun hcaller

/-- A service gives no numbers back. -/
theorem caller_of_query? {r : Routine UInt32} (ht : e.types = [⟨[], [.i32]⟩])
    (h : exports.query? e = some r) : r.caller = .guest := by
  obtain ⟨run, hrun, rfl⟩ := Option.map_eq_some_iff.mp h
  have hmem : ⟨[], [.i32]⟩ ∈ e.types := ht ▸ List.mem_singleton_self _
  cases hcaller : (run ()).caller with
  | guest => exact hcaller
  | host =>
    obtain ⟨c, hon, -⟩ := handsOn_of_func? hmem hrun hcaller
    have haccepted := hon.accepted
    rw [ht, List.mem_singleton] at haccepted
    cases c <;> cases haccepted

theorem handsOn_of_wheel? {c : Call} {r : Routine Unit}
    (h : exports.wheel?.bind (·.routine? c) = some r) (hcaller : r.caller = .host) :
    ∃ ask : HostCall, exports.HandsOn ask.service .onWheelEvent ∧ r.Asks ask := by
  obtain ⟨wheel, hwheel, hr⟩ := Option.bind_eq_some_iff.mp h
  unfold Exports.wheel? at hwheel
  split at hwheel
  · next run hrun =>
    cases hwheel
    cases c <;> cases hr
    exact handsOn_of_handler (List.mem_cons_self ..) hrun hcaller
  · obtain ⟨run, hrun, rfl⟩ := Option.map_eq_some_iff.mp hwheel
    cases c <;> cases hr
    exact handsOn_of_handler (List.mem_cons_of_mem _ (List.mem_singleton_self _)) hrun hcaller

/-- The host is its own caller only where the guest has handed a service on to it. -/
theorem Exports.Resolves.handsOn {g : Entrypoints} (h : exports.Resolves g) {c : Call}
    {r : Routine Unit} (hr : g.routine? c = some r) (hcaller : r.caller = .host) :
    ∃ ask : HostCall, exports.HandsOn ask.service c.entry ∧ r.Asks ask := by
  cases c with
  | init =>
    cases hr
    exact handsOn_of_action? rfl h.init hcaller
  | runMain => exact handsOn_of_action? rfl (h.runMain.symm.trans hr) hcaller
  | update =>
    cases hr
    exact handsOn_of_action? rfl h.onUpdate hcaller
  | pointer x y buttons =>
    rw [Entrypoints.routine?, h.onPointer] at hr
    obtain ⟨f, hf, rfl⟩ := Option.map_eq_some_iff.mp hr
    obtain ⟨run, hrun, rfl⟩ := Option.map_eq_some_iff.mp hf
    exact handsOn_of_handler (List.mem_singleton_self _) hrun hcaller
  | keyboard mask charCode =>
    rw [Entrypoints.routine?, h.onKeyboard] at hr
    obtain ⟨f, hf, rfl⟩ := Option.map_eq_some_iff.mp hr
    obtain ⟨run, hrun, rfl⟩ := Option.map_eq_some_iff.mp hf
    exact handsOn_of_handler (List.mem_singleton_self _) hrun hcaller
  | wheelFloat delta =>
    rw [Entrypoints.routine?, h.onWheel] at hr
    exact handsOn_of_wheel? hr hcaller
  | wheelInt delta =>
    rw [Entrypoints.routine?, h.onWheel] at hr
    exact handsOn_of_wheel? hr hcaller
  | romPtr =>
    cases hr
    cases (caller_of_query? rfl h.romPtr).symm.trans hcaller
  | statePtr =>
    obtain ⟨ask, hask, rfl⟩ := Option.map_eq_some_iff.mp hr
    cases (caller_of_query? rfl (h.statePtr.symm.trans hask)).symm.trans hcaller
  | stateSize =>
    obtain ⟨ask, hask, rfl⟩ := Option.map_eq_some_iff.mp hr
    cases (caller_of_query? rfl (h.stateSize.symm.trans hask)).symm.trans hcaller
  | audioSamples =>
    obtain ⟨ask, hask, rfl⟩ := Option.map_eq_some_iff.mp hr
    cases (caller_of_query? rfl (h.audioSamples.symm.trans hask)).symm.trans hcaller

end Guest

end GuestHost
