import GuestHost.Proofs.Dealing
import GuestHost.Proofs.Session.Course
import GuestHost.Proofs.Session.Saving

/-! What shuts a guest's gate, and what its error tells. Only guest code that fails shuts it, or a
service that the guest hands on; what the host cannot find or place in the memory is refused and
leaves it open. -/
namespace GuestHost

/-- After some steps of its code the visit got stuck: what these steps have stored, printed and
shown is what it leaves. -/
def Visit.StoppedBy (v : Visit) (stop : Stop) : Prop :=
  ∃ y m, v.routine.code.Reaches v.routine.caller v.machine v.outcome.trace y m ∧
    y.Stuck v.routine.caller m stop v.outcome.state

theorem Visit.stoppedBy {v : Visit} {stop : Stop} (h : v.outcome.result = .error stop) :
    v.StoppedBy stop :=
  Code.stuck_of_run (Act.eq_of_result h)

theorem Visit.StoppedBy.isFatal {v : Visit} {stop : Stop} (h : v.StoppedBy stop) :
    (stop.error v.call.entry).isFatal = true := by
  obtain ⟨y, m, -, hstuck⟩ := h
  exact (hstuck.grave v.call.entry).isFatal

namespace Session

variable {s : Session}

/-- The gate falls shut exactly when one of the visits fails; this visit is the last of all that
happens, and the error is the one of its code. That no memory is found is the error of services that
the guest has handed on, and of nothing else. What ends otherwise in an error was turned down by the
host. -/
structure Latched (exports : Guest.Exports) (s : Session) (op : Operation) (vs : List Visit)
    (r : Except Error Unit) : Prop where
  calls : calls (op.act s).trace = vs.map Visit.call
  routines : ∀ v ∈ vs, s.vm.entry.routine? v.call = some v.routine
  faults : s.vm.faulted = false ∧ (op.act s).state.vm.faulted = true ↔ ∃ v ∈ vs, v.Failed
  forever : s.vm.faulted = true → (op.act s).state.vm.faulted = true
  failed : ∀ v ∈ vs, v.Failed → ∃ stop, v.StoppedBy stop ∧
    (stop = .refused .missingMemory ↔ v.routine.caller = .host) ∧
    (op.act s).result = .error (stop.error v.call.entry) ∧
    Vm.Course.EndsIn v vs (op.act s).trace (op.act s).state.vm
  handedOn : ∀ v ∈ vs, v.routine.caller = .host →
    ∃ service, exports.HandsOn service v.call.entry ∧
      v.call.entry = (if service = .render then .onKeyboardEvent else .onWheelEvent) ∧
      (v.Failed ↔ service ≠ .printChar)
  refused : ∀ {e}, r = .error e → (∀ v ∈ vs, ¬v.Failed) → (op.act s).state.vm.Refuses e

theorem latched_of_undergoes {exports : Guest.Exports} {op : Operation} {vs : List Visit}
    {r : Except Error Unit} (hs : s.vm.Hosts exports) (h : Undergoes s op vs r) :
    Latched exports s op vs r where
  calls := h.course.calls_eq
  routines := h.course.routine_eq
  faults := by
    rw [h.course.faulted_iff]
    constructor
    · rintro ⟨hf, hshut | hvs⟩
      · exact absurd (hf.symm.trans hshut) Bool.false_ne_true
      · exact hvs
    · intro hvs
      refine ⟨Bool.eq_false_iff.mpr fun hf => ?_, .inr hvs⟩
      obtain ⟨v, hv, -⟩ := hvs
      rw [h.course.visits_of_faulted hf] at hv
      cases hv
  forever hf := h.course.faulted_iff.mpr (.inl hf)
  failed := by
    intro v hv hfailed
    obtain ⟨hends, stop, hstop, rfl⟩ := h.course.endsIn_of_failed hv hfailed
    have hstopped := Visit.stoppedBy hstop
    have hr := h.heard
    rw [Operation.heard_of_fatal hstopped.isFatal] at hr
    rw [hr]
    exact ⟨stop, hstopped, hs.homeless_iff h.course hv hstop, rfl, hends⟩
  handedOn := by
    intro v hv hcaller
    obtain ⟨service, hon, hresult⟩ := hs.handsOn h.course hv hcaller
    refine ⟨service, hon, hon.entry_eq, ?_⟩
    rw [Visit.Failed, hresult]
    split
    · next hchar => exact iff_of_false nofun fun hother => hother hchar
    · next hother => exact iff_of_true ⟨_, rfl⟩ hother
  refused := h.course.refuses_of_error

/-- What the memory does not hold is turned down with the place and the length asked for and the
size that the memory has by then. The guest is not to blame and may be called again. -/
structure RefusesRanges (s : Session) : Prop where
  boot : ∀ {vm₁ vm₂ : Vm} {ptr : UInt32} {t₁ t₂ : List Output},
    Vm.init s.vm = ⟨.ok (), vm₁, t₁⟩ → Vm.romAddress vm₁ = ⟨.ok ptr, vm₂, t₂⟩ →
      vm₂.memory.size < ptr.toNat + s.romLength →
        (boot s).result = .error (.outOfRange ptr.toNat s.romLength vm₂.memory.size) ∧
          (boot s).state.vm = vm₂ ∧ vm₂.faulted = false
  save : ∀ {ptr size : UInt32} {m : Machine}, s.Tells ptr size m →
    m.memory.size < ptr.toNat + size.toNat →
      (save s).result = .error (.outOfRange ptr.toNat size.toNat m.memory.size) ∧
        (save s).state.vm = { s.vm with machine := m } ∧ (save s).state.vm.faulted = false
  restore : ∀ {snapshot : Snapshot} {ptr size : UInt32} {m : Machine}, s.Tells ptr size m →
    s.snapshot = some snapshot → m.memory.size < ptr.toNat + snapshot.size →
      (restore s).result = .error (.outOfRange ptr.toNat snapshot.size m.memory.size) ∧
        (restore s).state.vm = { s.vm with machine := m } ∧ (restore s).state.vm.faulted = false
  pull : ∀ {ptr : UInt32} {vm : Vm} {t : List Output} (chunk : Chunk), s.lifecycle = .running →
    Vm.samplesAddress s.vm = ⟨.ok (some ptr), vm, t⟩ →
      vm.memory.size < ptr.toNat + s.chunkFrames * 2 * 4 →
        (pull chunk s).result =
            .error (.outOfRange ptr.toNat (s.chunkFrames * 2 * 4) vm.memory.size) ∧
          (pull chunk s).state.vm = vm ∧ vm.faulted = false

theorem refusesRanges (s : Session) : s.RefusesRanges where
  boot hi hp hover := by
    obtain ⟨hf, m₁, t₁', -, rfl⟩ := Vm.ran_of_call hi
    obtain ⟨-, m₂, t₂', -, rfl⟩ := Vm.ran_of_call hp
    obtain ⟨t, ht, -⟩ := bringUp_of_ptr (s := { s with lifecycle := .booting })
      (.of_eq hi) (.of_eq hp) (loadAt_of_misfit _ hover)
    rw [boot_of_error ht]
    exact ⟨rfl, rfl, hf⟩
  save h hover := by
    obtain ⟨t, ht⟩ := save_of_lt h hover
    rw [ht]
    exact ⟨rfl, rfl, h.unfaulted⟩
  restore h hs hover := by
    obtain ⟨t, ht⟩ := restore_of_lt h hs hover
    rw [ht]
    exact ⟨rfl, rfl, h.unfaulted⟩
  pull chunk hr hask hover := by
    obtain ⟨hf, c, code, m, t', -, -, rfl⟩ := Vm.ran_of_callIf hask
    have hpull := Vm.pullChunk_of_lt s.chunkFrames chunk hask hover
    obtain ⟨t, ht, -⟩ := makes_pull (makes_pullChunk hr (.of_eq hpull))
    rw [ht]
    exact ⟨rfl, rfl, hf⟩

/-- In whatever state the session is, every operation is a course of visits that shuts the gate
exactly when what it calls fails, and answers with what that ran into; ranges that the host cannot
serve leave the gate open. -/
theorem latched_act (hs : s.Reachable) (op : Operation) : ∃ exports, s.vm.Hosts exports ∧
    s.RefusesRanges ∧ (∃ vs r, Undergoes s op vs r) ∧
      ∀ vs r, Undergoes s op vs r → Latched exports s op vs r := by
  obtain ⟨exports, hhosts⟩ := hs.hosts
  exact ⟨exports, hhosts, refusesRanges s, exists_undergoes s op,
    fun _ _ => latched_of_undergoes hhosts⟩

/-- Its guest has no byte of memory, prints a character and then asks for the time. -/
def homeless : Session :=
  ofGuest (.bare 0 (.host (.printChar 0x41) (.host (.getDateTime 0) (.ret ()))) [])

theorem homeless_created : homeless.Created :=
  created_ofGuest _ _ _

/-- There is nowhere to put the time: the boot fails with the clock's own error, and what was
printed before is kept. -/
theorem latched_act_homeless :
    (∃ exports vs r, Undergoes homeless .boot vs r ∧ Latched exports homeless .boot vs r ∧
      ∃ v ∈ vs, v.Failed) ∧
      (boot homeless).result = .error (.outOfRange 0 16 0) ∧
      (boot homeless).state.vm.machine.console = ⟨"A"⟩ := by
  obtain ⟨exports, -, -, ⟨vs, r, h⟩, hlatched⟩ := latched_act homeless_created.reachable .boot
  have hl := hlatched vs r h
  exact ⟨⟨exports, vs, r, h, hl, hl.faults.mp ⟨rfl, by rfl⟩⟩, by rfl, by rfl⟩

/-- Its guest hands a service on under the name of an entry point. -/
def handing (e : Entry) (service : Guest.Service) : Session :=
  bare [(e.name, .func (.service service))]

/-- A thousand million. -/
def billion : Binary64 :=
  ⟨0x41cdcd6500000000⟩

theorem reachable_handing (e : Entry) (service : Guest.Service)
    (hm : (handing e service).vm.entry.runMain = none) : ∃ memory,
      Reachable { (handing e service).withMemory memory with lifecycle := .running } := by
  obtain ⟨memory, t, -, hb⟩ := boot_bare _ hm
  have hs : (boot (handing e service)).state.Reachable :=
    (bare_created _).reachable_act .boot
  rw [handing, hb] at hs
  exact ⟨memory, hs⟩

/-- A text is printed by turning the wheel of this guest: no memory is found for it, although the
guest exports one. -/
theorem printing_wheel : ∃ s : Session, s.Reachable ∧ s.lifecycle = .running ∧
    s.vm.faulted = false ∧ s.vm.machine.exported = true ∧
    (wheel billion s).result = .error .missingMemory ∧
      (wheel billion s).state.vm.faulted = true := by
  obtain ⟨memory, hs⟩ := reachable_handing .onWheelEvent .printStr rfl
  exact ⟨_, hs, rfl, rfl, rfl, rfl, rfl⟩

/-- Not every guest that faults has run into its own code or into its own memory. -/
theorem printing_wheel_not_integration : ¬∀ (s : Session) (op : Operation), s.Reachable →
    s.vm.machine.exported = true → s.vm.faulted = false → (op.act s).state.vm.faulted = true →
      ∃ e, (op.act s).result = .error e ∧ e.Integration := by
  intro hall
  obtain ⟨s, hs, -, hopen, hm, hresult, hshut⟩ := printing_wheel
  obtain ⟨e, he, hint⟩ := hall s (.wheel billion) hs hm hopen hshut
  cases hresult.symm.trans he
  cases hint

end Session

end GuestHost
