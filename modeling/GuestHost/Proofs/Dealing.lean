import GuestHost.Proofs.Course
import GuestHost.Proofs.Guest.Service

/-! Every use of a guest is a course, and what such a course can fail with: the guest has faulted
before, faults now, or names a place that its memory does not have; a service that the host calls
itself finds no memory. Only a state may also be asked for that it does not declare. -/
namespace GuestHost

/-- The errors that leave no way to go on with a guest that is called in its own code. -/
inductive Error.Integration : Error → Prop where
  | faulted : Integration .faulted
  | trap (entry : String) (causes : List String) : Integration (.trap entry causes)
  | outOfRange (addr len size : Nat) : Integration (.outOfRange addr len size)
  | unterminated (addr : Nat) : Integration (.unterminated addr)

/-- These, and that a service finds no memory. -/
def Error.Grave (e : Error) : Prop :=
  e.Integration ∨ e = .missingMemory

theorem Error.Grave.isFatal {e : Error} (h : e.Grave) : e.isFatal = true := by
  obtain h | rfl := h
  · cases h <;> rfl
  · rfl

/-- These, and that a state is asked for which the guest does not declare. -/
def Error.Dealing (e : Error) : Prop :=
  e.Grave ∨ e = .unsupported Entry.getStatePtr.name

theorem Error.Integration.dealing {e : Error} (h : e.Integration) : e.Dealing :=
  .inl (.inl h)

theorem Error.Dealing.ne_notRunning {e : Error} (h : e.Dealing) : e ≠ .notRunning := by
  rintro rfl
  rcases h with (h | h) | h <;> cases h

theorem Machine.Refuses.integration {m : Machine} {c : HostCall} {e : Error} (h : m.Refuses c e) :
    e.Integration := by
  cases h with
  | textUnterminated => exact .unterminated _
  | textOutside => exact .outOfRange _ _ _
  | background => exact .outOfRange _ _ _
  | foreground => exact .outOfRange _ _ _
  | record => exact .outOfRange _ _ _

section Stuck

variable {α : Type} {caller : Caller} {y : Code α} {m m' : Machine} {stop : Stop}
  (h : y.Stuck caller m stop m')
include h

/-- What stops guest code is its own trap, or a range or a text that its memory does not have; a
service may be stopped by finding no memory. -/
theorem Code.Stuck.integration_or_homeless (entry : Entry) :
    (stop.error entry).Integration ∨ m.finds caller = false ∧ stop = .refused .missingMemory := by
  cases h with
  | trap t => exact .inl (.trap _ _)
  | load next hl => exact .inl (.trap _ _)
  | store next hs => exact .inl (.trap _ _)
  | fill next hf => exact .inl (.trap _ _)
  | host next hdenial =>
    cases hdenial.cause with
    | homeless hm hc => exact .inr ⟨hm, rfl⟩
    | refused hm hcause => exact .inl hcause.integration

theorem Code.Stuck.integration (hm : m.finds caller = true) (entry : Entry) :
    (stop.error entry).Integration :=
  (h.integration_or_homeless entry).resolve_right fun hnone =>
    Bool.false_ne_true (hnone.1.symm.trans hm)

theorem Code.Stuck.grave (entry : Entry) : (stop.error entry).Grave :=
  (h.integration_or_homeless entry).imp_right fun hnone => congrArg (Stop.error entry) hnone.2

end Stuck

/-- A guest whose memory is found fails for no other reason than its own. -/
theorem Routine.integration_of_run {α : Type} {routine : Routine α} {m m' : Machine} {stop : Stop}
    {t : List Output} (hm : m.exported = true) (hcaller : routine.caller = .guest)
    (hrun : routine.run m = ⟨.error stop, m', t⟩) (entry : Entry) :
    (stop.error entry).Integration := by
  obtain ⟨y, m₁, hreach, hstuck⟩ := Code.stuck_of_run hrun
  have hheld : m.Held t m₁ := hreach.keeps Machine.held_kept
  exact hstuck.integration (Machine.finds_eq_true_iff.mpr ⟨hheld.exported.trans hm, hcaller⟩) entry

/-- What can leave no way to go on with a guest: an error of the guest's own, or, where it hands on
a service that needs a memory, that none is found. -/
inductive Guest.Exports.Breaks (exports : Guest.Exports) : Error → Prop
  | integration {e : Error} (h : e.Integration) : Breaks exports e
  | homeless {s : Guest.Service} {entry : Entry} (h : exports.HandsOn s entry)
      (hs : s ≠ .printChar) : Breaks exports .missingMemory

theorem Guest.Exports.Breaks.grave {exports : Guest.Exports} {e : Error} (h : exports.Breaks e) :
    e.Grave := by
  cases h with
  | integration h => exact .inl h
  | homeless => exact .inr rfl

namespace Vm

/-- Holds wherever a guest with these entry points is only called and its memory only read. The host
itself refuses nothing but for a reason of `P`. -/
structure Uses (P : Error → Prop) (g : Guest.Entrypoints)
    (R : Vm → List Output → Except Error Unit → Vm → Prop) : Prop extends Act.Flow R where
  integration : ∀ {e : Error}, e.Integration → P e
  looked : ∀ {α : Type} {f : Vm → Act Error Vm α},
    (∀ vm, vm.entry = g → Act.Follows R (f vm)) → Act.Follows R (Act.get >>= f)
  note : ∀ n, Act.Follows R (Act.note n)
  refused : ∀ {vm : Vm} {e : Error}, Refuses vm e → P e → R vm [] (.error e) vm
  visited : ∀ {α : Type} {vm : Vm} {c : Call} {routine : Routine α},
    g.routine? c = some routine.discard → vm.faulted = false →
      R vm (invoke c routine vm).trace ((invoke c routine vm).result.map fun _ => ())
        (invoke c routine vm).state

namespace Uses

variable {α : Type} {P : Error → Prop} {g : Guest.Entrypoints}
  {R : Vm → List Output → Except Error Unit → Vm → Prop} (h : Uses P g R)
include h

theorem call {c : Call} {routine : Routine α} (hc : g.routine? c = some routine.discard) :
    Act.Follows R (call c routine) := by
  intro vm
  by_cases hf : vm.faulted = true
  · rw [call_of_faulted hf]
    exact h.refused (.faulted hf) (h.integration .faulted)
  · have hopen := Bool.eq_false_iff.mpr hf
    rw [call_of_not_faulted hopen]
    exact h.visited hc hopen

theorem callIf {found : Option (Call × Routine α)}
    (hc : ∀ p ∈ found, g.routine? p.1 = some p.2.discard) : Act.Follows R (callIf found) := by
  intro vm
  by_cases hf : vm.faulted = true
  · rw [callIf_of_faulted hf]
    exact h.refused (.faulted hf) (h.integration .faulted)
  · have hopen := Bool.eq_false_iff.mpr hf
    cases found with
    | none =>
      rw [callIf_none hopen]
      exact h.refl vm
    | some p =>
      rw [callIf_some hopen]
      exact Act.Follows.bind_at h.toFlow (h.visited (hc p rfl) hopen) fun _ => .pure h.toFlow _

theorem init : Act.Follows R init := by
  refine h.looked fun vm hg => h.call ?_
  rw [← hg, Routine.discard_unit, Guest.Entrypoints.routine?]

theorem update : Act.Follows R update := by
  refine h.looked fun vm hg => h.call ?_
  rw [← hg, Routine.discard_unit, Guest.Entrypoints.routine?]

theorem romAddress : Act.Follows R romAddress := by
  refine h.looked fun vm hg => h.call ?_
  rw [← hg, Guest.Entrypoints.routine?]

theorem runMain : Act.Follows R runMain := by
  refine h.looked fun vm hg => .bind h.toFlow (h.callIf ?_) fun done => .pure h.toFlow _
  intro p hp
  obtain ⟨code, hcode, rfl⟩ := Option.map_eq_some_iff.mp hp
  rw [← hg, Routine.discard_unit, Guest.Entrypoints.routine?, hcode]

theorem pointer (i : PointerInput) : Act.Follows R (pointer i) := by
  refine h.looked fun vm hg => .bind h.toFlow (h.callIf ?_) fun _ => .pure h.toFlow ()
  intro p hp
  obtain ⟨f, hcode, rfl⟩ := Option.map_eq_some_iff.mp hp
  rw [← hg, Routine.discard_unit, Guest.Entrypoints.routine?, hcode, Option.map_some]

theorem wheel (delta : Binary64) : Act.Follows R (wheel delta) := by
  refine h.looked fun vm hg => .bind h.toFlow (h.callIf ?_) fun _ => .pure h.toFlow ()
  intro p hp
  obtain ⟨w, hcode, rfl⟩ := Option.map_eq_some_iff.mp hp
  rw [← hg, Routine.discard_unit]
  cases w <;> simp only [wheelCall, Guest.Entrypoints.routine?, hcode, Option.bind_some,
    Guest.Wheel.routine?]

theorem keyboard (i : KeyboardInput) : Act.Follows R (keyboard i) := by
  refine h.looked fun vm hg => .bind h.toFlow (h.callIf ?_) fun _ => .pure h.toFlow ()
  intro p hp
  obtain ⟨f, hcode, rfl⟩ := Option.map_eq_some_iff.mp hp
  rw [← hg, Routine.discard_unit, Guest.Entrypoints.routine?, hcode, Option.map_some]

theorem declaredState : Act.Follows R declaredState := by
  refine h.looked fun vm hg => .bind h.toFlow (h.callIf ?_) fun ptr =>
    .bind h.toFlow (h.callIf ?_) fun size => .pure h.toFlow _
  · intro p hp
    obtain ⟨code, hcode, rfl⟩ := Option.map_eq_some_iff.mp hp
    rw [← hg, Guest.Entrypoints.routine?, hcode, Option.map_some]
  · intro p hp
    obtain ⟨code, hcode, rfl⟩ := Option.map_eq_some_iff.mp hp
    rw [← hg, Guest.Entrypoints.routine?, hcode, Option.map_some]

theorem samplesAddress : Act.Follows R samplesAddress := by
  refine h.looked fun vm hg => h.callIf ?_
  intro p hp
  obtain ⟨code, hcode, rfl⟩ := Option.map_eq_some_iff.mp hp
  rw [← hg, Guest.Entrypoints.routine?, hcode, Option.map_some]

theorem read (addr : UInt32) (len : Nat) : Act.Follows R (read addr len) := by
  intro vm
  unfold Vm.read
  cases hr : vm.memory.read addr len with
  | ok bytes => exact h.refl vm
  | error e =>
    obtain ⟨hmiss, rfl⟩ := Memory.misses_of_read_error hr
    exact h.refused (.outside hmiss) (h.integration (.outOfRange _ _ _))

theorem pullChunk (frames : Nat) :
    Act.Follows (fun p t r p' => R p.1 t r p'.1) (pullChunk frames) := by
  have hflow := h.toFlow.comap (Prod.fst : Vm × Chunk → Vm)
  refine .bind hflow (fun p => hflow.refl p) fun _ => ?_
  refine .bind hflow (.on h.samplesAddress id) fun ptr => ?_
  cases ptr with
  | none => exact fun p => hflow.refl p
  | some ptr => exact .bind hflow (.on (h.read ptr _) id) fun bytes p => hflow.refl p

section State

variable (hstate : P (.unsupported Entry.getStatePtr.name))
include hstate

theorem region : Act.Follows R Snapshot.region := by
  intro vm
  have hask := h.declaredState vm
  rcases hd : Vm.declaredState vm with ⟨e | r, vm', t⟩ <;> rw [hd] at hask
  · rw [Snapshot.region, Act.bind_of_error hd]
    exact hask
  · rw [Snapshot.region, Act.bind_of_ok hd]
    refine h.trans hask ?_
    cases r with
    | none =>
      have hnone := undeclared_of_declaredState (congrArg Outcome.result hd)
      have hentry := (Within.declaredState (P := fun _ => True) trivial trivial vm).entry
      rw [hd] at hentry
      rw [← hentry] at hnone
      exact h.refused (.undeclared hnone) hstate
    | some r => exact h.refl vm'

theorem take : Act.Follows R Snapshot.take :=
  .bind h.toFlow (h.region hstate) fun r => .bind h.toFlow (h.read r.1 _) fun _ =>
    .bind h.toFlow (h.note _) fun _ => .pure h.toFlow _

end State

end Uses

/-- An error behind a visit that fails is that of what the guest ran. -/
theorem Course.grave_of_failed {vm vm' : Vm} {vs : List Visit} {v : Visit} {t : List Output}
    {r : Except Error Unit} {e : Error} (h : Course vm vs t r vm') (hv : v ∈ vs)
    (hfailed : v.Failed) (hr : r = .error e) : e.Grave := by
  obtain ⟨-, stop, hstop, hr'⟩ := h.endsIn_of_failed hv hfailed
  obtain ⟨y, m, -, hstuck⟩ := Code.stuck_of_run (Act.eq_of_result hstop)
  cases hr.symm.trans hr'
  exact hstuck.grave v.call.entry

section Hosts

variable {exports : Guest.Exports} {vm vm' : Vm} {vs : List Visit} {v : Visit} {t : List Output}
  {r : Except Error Unit} (h : Hosts exports vm) (hvs : Course vm vs t r vm') (hv : v ∈ vs)
include h hvs hv

/-- A service that is handed on fails whenever it is called, unless it prints a character. -/
theorem Hosts.handsOn (hcaller : v.routine.caller = .host) :
    ∃ s, exports.HandsOn s v.call.entry ∧
      v.outcome.result = if s = .printChar then .ok () else .error (.refused .missingMemory) := by
  obtain ⟨ask, hon, hasks⟩ := h.resolves.handsOn (hvs.routine_eq v hv) hcaller
  exact ⟨ask.service, hon, hasks.result_run v.machine⟩

/-- That no memory is found says who has called. -/
theorem Hosts.homeless_iff {stop : Stop} (hstop : v.outcome.result = .error stop) :
    stop = .refused .missingMemory ↔ v.routine.caller = .host := by
  cases hcaller : v.routine.caller with
  | guest =>
    refine iff_of_false ?_ nofun
    rintro rfl
    have hm := (hvs.keeps Machine.stable_exported h.exported).2 v hv
    have hint := Routine.integration_of_run hm hcaller (Act.eq_of_result hstop) v.call.entry
    cases hint
  | host =>
    obtain ⟨s, -, hresult⟩ := h.handsOn hvs hv hcaller
    refine iff_of_true ?_ rfl
    rw [hstop] at hresult
    split at hresult <;> cases hresult
    rfl

theorem Hosts.breaks_of_failed {e : Error} (hfailed : v.Failed) (hr : r = .error e) :
    exports.Breaks e := by
  obtain ⟨-, stop, hstop, hr'⟩ := hvs.endsIn_of_failed hv hfailed
  cases hr.symm.trans hr'
  cases hcaller : v.routine.caller with
  | guest =>
    have hm := (hvs.keeps Machine.stable_exported h.exported).2 v hv
    exact .integration (Routine.integration_of_run hm hcaller (Act.eq_of_result hstop) _)
  | host =>
    obtain ⟨s, hon, hresult⟩ := h.handsOn hvs hv hcaller
    rw [hstop] at hresult
    split at hresult <;> cases hresult
    exact .homeless hon ‹_›

end Hosts

/-- Some course leads there, for a guest with these entry points. -/
def Leads (g : Guest.Entrypoints) (vm : Vm) (t : List Output) (r : Except Error Unit) (vm' : Vm) :
    Prop :=
  vm.entry = g → ∃ vs, Course vm vs t r vm'

theorem Leads.flow {g : Guest.Entrypoints} : Act.Flow (Leads g) where
  refl vm _ := ⟨[], .done vm⟩
  trans h h' hg := by
    obtain ⟨vs, hvs⟩ := h hg
    obtain ⟨vs', hvs'⟩ := h' (hvs.entry_eq.trans hg)
    exact ⟨vs ++ vs', hvs.trans hvs'⟩

/-- A course leads there on which the host itself refuses nothing but for a reason of `P`. -/
def LeadsBy (P : Error → Prop) (g : Guest.Entrypoints) (vm : Vm) (t : List Output)
    (r : Except Error Unit) (vm' : Vm) : Prop :=
  vm.entry = g → ∃ vs, Course vm vs t r vm' ∧
    ∀ e, r = .error e → (∀ v ∈ vs, ¬v.Failed) → P e

namespace LeadsBy

variable {g : Guest.Entrypoints} {α : Type} {P : Error → Prop}

theorem flow : Act.Flow (LeadsBy P g) where
  refl vm _ := ⟨[], .done vm, nofun⟩
  trans h h' hg := by
    obtain ⟨vs, hvs, -⟩ := h hg
    obtain ⟨vs', hvs', he⟩ := h' (hvs.entry_eq.trans hg)
    exact ⟨vs ++ vs', hvs.trans hvs',
      fun e hr hok => he e hr fun v hv => hok v (List.mem_append_right vs hv)⟩

theorem leads {vm vm' : Vm} {t : List Output} {r : Except Error Unit}
    (h : LeadsBy P g vm t r vm') : Leads g vm t r vm' := by
  intro hg
  obtain ⟨vs, hvs, -⟩ := h hg
  exact ⟨vs, hvs⟩

theorem refused {vm : Vm} {e : Error} (h : Refuses vm e) (he : P e) :
    LeadsBy P g vm [] (.error e) vm := by
  refine fun _ => ⟨[], .refused h nofun, ?_⟩
  rintro err ⟨⟩ -
  exact he

theorem note (n : Notice) : Act.Follows (LeadsBy P g) (Act.note n) :=
  fun vm _ => ⟨[], .said rfl (.done vm), nofun⟩

theorem flushConsole : Act.Follows (LeadsBy P g) flushConsole := by
  intro vm _
  have hone : Course vm [] ((Vm.flushConsole vm).trace ++ []) (.ok ()) (Vm.flushConsole vm).state :=
    .flushed rfl (.done _)
  rw [List.append_nil] at hone
  exact ⟨_, hone, nofun⟩

/-- A single visit, of code that the guest has for the call. -/
theorem invoke {vm : Vm} {c : Call} {routine : Routine α} (hc : g.routine? c = some routine.discard)
    (hf : vm.faulted = false) :
    LeadsBy P g vm (invoke c routine vm).trace ((invoke c routine vm).result.map fun _ => ())
      (invoke c routine vm).state := by
  rintro rfl
  rcases hrun : routine.run vm.machine with ⟨stop | a, m, t⟩
  · have hcode : routine.discard.run vm.machine = ⟨.error stop, m, t⟩ := by
      rw [Routine.run_discard, hrun]
      rfl
    rw [invoke_of_error hrun]
    refine ⟨_, .failed hf hc hcode (by simp [Output.fromHost]), fun e _ hok => ?_⟩
    exact absurd (Visit.failed_of_run hcode) (hok _ (List.mem_singleton_self _))
  · have hcode : routine.discard.run vm.machine = ⟨.ok (), m, t⟩ := by
      rw [Routine.run_discard, hrun]
      rfl
    have hone := Course.returned hf hc hcode (.done { vm with machine := m })
    rw [invoke_of_ok hrun]
    rw [List.append_nil] at hone
    exact ⟨_, hone, nofun⟩

variable (hP : ∀ {e : Error}, e.Integration → P e)
include hP

theorem uses : Uses P g (LeadsBy P g) where
  toFlow := flow
  integration := hP
  looked h vm hg := h vm hg vm hg
  note := note
  refused := refused
  visited := invoke

theorem write (addr : UInt32) (bytes : ByteArray) :
    Act.Follows (LeadsBy P g) (write addr bytes) := by
  intro vm
  cases hw : vm.memory.write addr bytes with
  | ok memory =>
    rw [write_of_ok hw]
    exact fun _ => ⟨[], .wrote hw (.done _), nofun⟩
  | error e =>
    obtain ⟨hmiss, rfl⟩ := Memory.misses_of_write_error hw
    rw [write_of_error hw]
    exact refused (.outside hmiss) (hP (.outOfRange _ _ _))

theorem restore (hstate : P (.unsupported Entry.getStatePtr.name)) (snapshot : Snapshot) :
    Act.Follows (LeadsBy P g) snapshot.restore := by
  refine .bind flow ((uses hP).region hstate) fun r => ?_
  have hrest : Act.Follows (LeadsBy P g) (do
      Vm.write r.1 snapshot.bytes
      Act.note (.regionRestored snapshot.size r.1)) :=
    .bind flow (write hP _ _) fun _ => note _
  exact .ite (.bind flow (note _) fun _ => hrest) hrest

end LeadsBy

/-- Every error is one of `P`. -/
def Ends (P : Error → Prop) (_ : Vm) (_ : List Output) (r : Except Error Unit) (_ : Vm) : Prop :=
  ∀ e, r = .error e → P e

namespace Ends

variable {P Q : Error → Prop}

theorem flow : Act.Flow (Ends P) where
  refl _ := nofun
  trans _ h' := h'

/-- Where the host does not refuse, the guest has failed. -/
theorem of_leads (hP : ∀ {e : Error}, P e → Q e) (hQ : ∀ {e : Error}, e.Grave → Q e)
    {vm vm' : Vm} {t : List Output} {r : Except Error Unit} (h : LeadsBy P vm.entry vm t r vm') :
    Ends Q vm t r vm' := by
  obtain ⟨vs, hvs, hrefused⟩ := h rfl
  intro e hr
  by_cases hfail : ∃ v ∈ vs, v.Failed
  · obtain ⟨v, hv, hfailed⟩ := hfail
    exact hQ (hvs.grave_of_failed hv hfailed hr)
  · exact hP (hrefused e hr fun v hv hfailed => hfail ⟨v, hv, hfailed⟩)

end Ends

end Vm

end GuestHost
