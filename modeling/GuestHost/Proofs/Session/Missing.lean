import GuestHost.Proofs.Missing
import GuestHost.Proofs.Session.Loop

/-! What errors say about missing entry points, from the making of a guest or a session on and
whatever is done to it. -/
namespace GuestHost

variable {σ : Type} {st st' : σ} {display : Config.Display} {clock : Clock} {guest : Guest.Module}
  {t : List Output} {e : Error}

namespace Guest.Module

theorem setup_of_runStart {code : Code Unit} {m : Machine}
    (h : (runStart code m : Act Error σ Machine) st = ⟨.error e, st', t⟩) :
    ∃ causes, e = .setup causes := by
  unfold runStart at h
  rcases hrun : code.run .guest m with ⟨(trap | refused) | a, m', t'⟩ <;> rw [hrun] at h <;> cases h
  · exact ⟨_, rfl⟩
  · exact ⟨_, rfl⟩

/-- What goes wrong before the guest's exports are looked at has no name of theirs in it. -/
theorem setup_of_instantiate
    (h : (guest.instantiate display clock : Act Error σ Instance) st = ⟨.error e, st', t⟩) :
    ∃ causes, e = .setup causes := by
  unfold instantiate at h
  split at h
  · cases h
    exact ⟨_, rfl⟩
  · cases hw : writeSegments guest.blankMemory guest.data with
    | none =>
      rw [hw] at h
      cases h
      exact ⟨_, rfl⟩
    | some memory =>
      rw [hw] at h
      obtain hrun | ⟨machine, st₁, t₁, t₂, -, hlast, -⟩ := Act.error_of_bind h
      · exact setup_of_runStart hrun
      · cases hlast

end Guest.Module

theorem Guest.Engine.load_error {engine : Guest.Engine} {read : Container.Assembler}
    {code : ByteArray} (h : engine.load read code = .error e) : ∃ fault, e = .load fault := by
  unfold load at h
  split at h
  · cases h
    exact ⟨_, rfl⟩
  · split at h <;> cases h
    exact ⟨_, rfl⟩

namespace Vm

theorem hosts_of_ofModule {vm : Vm} (h : ofModule guest display clock st = ⟨.ok vm, st', t⟩) :
    Hosts guest.exports vm := by
  obtain ⟨-, hm, hresolves, -⟩ := ofModule_ok h
  exact ⟨hm, hresolves⟩

theorem bearsOut_of_ofModule
    (h : (ofModule guest display clock : Act Error σ Vm) st = ⟨.error e, st', t⟩) :
    Guest.Exports.BearsOut guest.exports e := by
  obtain hi | ⟨i, st₁, t₁, t₂, hi, hrest, -⟩ := Act.error_of_bind h
  · obtain ⟨causes, rfl⟩ := Guest.Module.setup_of_instantiate hi
    exact ⟨nofun, nofun⟩
  · cases he : i.machine.exported with
    | false =>
      rw [he] at hrest
      cases hrest
      exact ⟨nofun, nofun⟩
    | true =>
      rw [he, (Guest.Module.instantiate_ok hi).2] at hrest
      obtain hentry | ⟨g, st₂, t₃, t₄, -, hlast, -⟩ := Act.error_of_bind hrest
      · obtain ⟨missing, rfl, hmissing⟩ := Guest.entrypoints_error hentry
        exact Guest.Exports.bearsOut_missingExport hmissing
      · cases hlast

end Vm

namespace Session

variable {s : Session} {read : Container.Assembler} {engine : Guest.Engine} {config : Config}
  {code rom : ByteArray} {surroundings : Surroundings}

theorem hosts_of_create (hl : engine.load read code = .ok guest)
    (h : create read engine config code rom surroundings st = ⟨.ok s, st', t⟩) :
    s.vm.Hosts guest.exports := by
  obtain ⟨-, -, guest', vm, t₀, hl', hvm, -, rfl⟩ := create_ok h
  cases hl.symm.trans hl'
  exact Vm.hosts_of_ofModule hvm

/-- Settings, image or module are at fault, and no entry point is named, or else the guest is. -/
theorem create_error
    (h : create read engine config code rom surroundings st = ⟨.error e, st', t⟩) :
    (∀ name, e ≠ .missingExport name ∧ e ≠ .unsupported name) ∨
      ∃ guest t₀, engine.load read code = .ok guest ∧
        (Vm.ofModule guest config.display surroundings.clock : Act Error σ Vm) st =
          ⟨.error e, st', t₀⟩ := by
  unfold create at h
  cases hv : config.validate with
  | error fault =>
    rw [hv] at h
    cases h
    exact .inl fun name => ⟨nofun, nofun⟩
  | ok a =>
    simp only [hv] at h
    by_cases hr : rom.size = 0
    · rw [if_pos hr] at h
      cases h
      exact .inl fun name => ⟨nofun, nofun⟩
    · rw [if_neg hr] at h
      cases hl : engine.load read code with
      | error e' =>
        rw [hl] at h
        cases h
        obtain ⟨fault, rfl⟩ := Guest.Engine.load_error hl
        exact .inl fun name => ⟨nofun, nofun⟩
      | ok guest =>
        rw [hl] at h
        obtain hload | ⟨guest', st₀, t₀, t₁, hload, hrest, -⟩ := Act.error_of_bind h
        · cases hload
        · cases hload
          obtain hvm | ⟨vm, st₁, t₂, t₃, -, hlast, -⟩ := Act.error_of_bind hrest
          · exact .inr ⟨guest, _, rfl, hvm⟩
          · cases hlast

/-- The caller of an operation hears no error but that of its course. -/
theorem bearsOut_of_act {exports : Guest.Exports} (op : Operation) (h : s.vm.Hosts exports)
    (he : (op.act s).result = .error e) : exports.BearsOut e := by
  obtain ⟨vs, r, hcourse, hheard⟩ := exists_undergoes s op
  have hr : r = .error e := Operation.error_of_heard (hheard.symm.trans he)
  exact hcourse.bearsOut h.resolves hr

end Session

namespace Guest.Module

/-- The guest as it has been made. -/
def Makes (guest : Module) (vm : Vm) : Prop :=
  ∃ display clock, (Vm.ofModule guest display clock ()).result = .ok vm

/-- A new session whose code is this guest. -/
def Opens (guest : Module) (s : Session) : Prop :=
  ∃ (read : Container.Assembler) (engine : Engine) (config : Config) (code rom : ByteArray)
    (surroundings : Surroundings), engine.load read code = .ok guest ∧
      (Session.create read engine config code rom surroundings ()).result = .ok s

/-- What is said of the guest's entry points is true, whoever uses it and in whatever way: while it
is made, and then on its own and in a session. What needs an entry point that is missing does not
succeed. -/
structure ErrsTruly (guest : Module) : Prop where
  made : ∀ display clock e,
    (Vm.ofModule guest display clock () : Outcome Error Unit Vm).result = .error e →
      Exports.BearsOut guest.exports e
  used : ∀ vm ops op e, guest.Makes vm →
    (Vm.Operation.act op (Vm.performAll ops vm).state).result = .error e →
      Exports.BearsOut guest.exports e
  created : ∀ read (engine : Engine) config code rom surroundings e,
    engine.load read code = .ok guest →
      (Session.create read engine config code rom surroundings ()).result = .error e →
        Exports.BearsOut guest.exports e
  operated : ∀ s ops op e, guest.Opens s →
    (Operation.act op (Session.performAll ops s).state).result = .error e →
      Exports.BearsOut guest.exports e
  ran : ∀ s ops events e, guest.Opens s →
    (Session.run events (Session.performAll ops s).state).result = .error e →
      Exports.BearsOut guest.exports e
  complete : ∀ vm, guest.Makes vm → Exports.Complete guest.exports
  taken : ∀ vm ops snapshot, guest.Makes vm →
    (Snapshot.take (Vm.performAll ops vm).state).result = .ok snapshot →
      Exports.DeclaresState guest.exports
  restored : ∀ vm ops snapshot, guest.Makes vm →
    (Snapshot.restore snapshot (Vm.performAll ops vm).state).result = .ok () →
      Exports.DeclaresState guest.exports

theorem Makes.hosts {vm : Vm} (h : guest.Makes vm) (ops : List Vm.Operation) :
    (Vm.performAll ops vm).state.Hosts guest.exports := by
  obtain ⟨display, clock, hvm⟩ := h
  exact (Vm.hosts_of_ofModule (Act.eq_of_result hvm)).performAll ops

theorem Opens.hosts {s : Session} (h : guest.Opens s) (ops : List Operation) :
    (Session.performAll ops s).state.vm.Hosts guest.exports := by
  obtain ⟨read, engine, config, code, rom, surroundings, hl, hs⟩ := h
  exact Session.hosts_performAll ops (Session.hosts_of_create hl (Act.eq_of_result hs))

theorem errsTruly (guest : Module) : guest.ErrsTruly where
  made _ _ _ he := Vm.bearsOut_of_ofModule (Act.eq_of_result he)
  used _ ops op _ hvm he := (hvm.hosts ops).bearsOut op he
  created read engine config code rom surroundings e hl he := by
    rcases Session.create_error (Act.eq_of_result he) with hnone | ⟨guest', t₀, hl', hvm⟩
    · exact ⟨fun name h => absurd h (hnone name).1, fun name h => absurd h (hnone name).2⟩
    · cases hl.symm.trans hl'
      exact Vm.bearsOut_of_ofModule hvm
  operated _ ops op _ hs he := Session.bearsOut_of_act op (hs.hosts ops) he
  ran _ ops _ _ hs he := Exports.bearsOut_of_grave _ (Session.breaks_of_run (hs.hosts ops) he).grave
  complete _ hvm := (hvm.hosts []).resolves.complete
  taken _ ops _ hvm hr := by
    obtain ⟨r, vm', t, hregion, -, -⟩ := Act.ok_of_bind hr
    exact (hvm.hosts ops).declaresState (congrArg Outcome.result hregion)
  restored _ ops _ hvm hr := by
    obtain ⟨r, vm', t, hregion, -, -⟩ := Act.ok_of_bind hr
    exact (hvm.hosts ops).declaresState (congrArg Outcome.result hregion)

end Guest.Module

/-- An error with the name of an entry point in it is true of the guest, but for a guest that has
the first half of what declares a state and lacks the other one. Where no guest is found there is no
such error. -/
theorem missing_exports_named (guest : Guest.Module) (engine : Guest.Engine) :
    guest.ErrsTruly ∧ ∀ read config code rom surroundings e,
      (Session.create read engine config code rom surroundings ()).result = .error e →
        (∃ guest, engine.load read code = .ok guest) ∨
          ∀ name, e ≠ .missingExport name ∧ e ≠ .unsupported name := by
  refine ⟨guest.errsTruly, fun read config code rom surroundings e he => ?_⟩
  rcases Session.create_error (Act.eq_of_result he) with hnone | ⟨guest', t₀, hl, -⟩
  · exact .inr hnone
  · exact .inl ⟨guest', hl⟩

/-- A guest that says where its state lies and not how long it is. -/
def Guest.Module.pointing : Guest.Module :=
  bare 1 (.ret ()) [Entry.getStatePtr.answering 16]

namespace Vm

theorem pointing_take : ∃ vm, Guest.Module.pointing.Makes vm ∧
    (Snapshot.take vm).result = .error (.unsupported Entry.getStatePtr.name) :=
  ⟨_, ⟨{}, fun _ => ⟨1970, 1, 1, 0, 0, 0, 0⟩, rfl⟩, rfl⟩

theorem pointing_offers : Guest.Exports.OffersName Guest.Module.pointing.exports
    Entry.getStatePtr.name :=
  Guest.offersName_iff.mpr ⟨_, rfl, List.mem_singleton_self _⟩

/-- What is missing here is the length, and what is named is the place. -/
theorem missing_exports_named_pointing : ∃ vm, Guest.Module.pointing.Makes vm ∧
    (Snapshot.take vm).result = .error (.unsupported Entry.getStatePtr.name) ∧
      Guest.Exports.PointsOnly Guest.Module.pointing.exports := by
  obtain ⟨vm, hvm, htake⟩ := pointing_take
  refine ⟨vm, hvm, htake, ?_⟩
  have hact : (Operation.take.act (performAll [] vm).state).result =
      .error (.unsupported Entry.getStatePtr.name) :=
    congrArg Outcome.result (Act.bind_of_error (Act.eq_of_result htake))
  obtain ⟨htruly, -⟩ := missing_exports_named .pointing Guest.Module.pointing.engine
  obtain ⟨-, hpoints⟩ := (htruly.used vm [] .take _ hvm hact).feature _ rfl
  exact hpoints.mp pointing_offers

/-- Not every error that names an entry point names one that is missing. -/
theorem pointing_not_missing : ¬∀ (guest : Guest.Module) vm name, guest.Makes vm →
    (Snapshot.take vm).result = .error (.unsupported name) →
      ¬Guest.Exports.OffersName guest.exports name := by
  intro hall
  obtain ⟨vm, hvm, htake⟩ := pointing_take
  exact hall .pointing vm _ hvm htake pointing_offers

end Vm

end GuestHost
