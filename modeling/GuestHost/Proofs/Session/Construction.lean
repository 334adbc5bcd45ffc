import GuestHost.Proofs.Config.Limits
import GuestHost.Proofs.Guest.Lookup
import GuestHost.Proofs.Memory
import GuestHost.Proofs.Session.Created
import Mathlib.Data.List.Nodup

/-! What a session can be made of. The stages of its construction are checked one after another, and
the first that does not pass is what the construction fails with. -/
namespace GuestHost

/-- The bytes of a module in binary form, read as a text where they are one. -/
inductive Container.Reads (read : Assembler) (code : ByteArray) : ByteArray → Prop
  | binary (h : Format.ofBytes? code = some .binary) : Reads read code code
  | text {w : ByteArray} (h : Format.ofBytes? code = some .text) (hw : read code = some w) :
      Reads read code w

def Stop.cause : Stop → String
  | .trap t => t.message
  | .refused e => e.message

namespace Session

/-- All that goes into a session. -/
structure Materials where
  read : Container.Assembler
  engine : Guest.Engine
  config : Config
  code : ByteArray
  rom : ByteArray
  surroundings : Surroundings

namespace Materials

variable {σ : Type} (x : Materials)

def load : Except Error Guest.Module :=
  x.engine.load x.read x.code

def session (vm : Vm) : Session where
  config := x.config
  vm
  rom := x.rom
  input := { display := x.config.display }
  audio := .ofDevice x.surroundings.device

/-- The construction of a session from them. -/
def make : Act Error σ Session :=
  create x.read x.engine x.config x.code x.rom x.surroundings

/-- Settings and image pass. -/
structure Sound : Prop where
  config : x.config.Valid
  rom : x.rom.size ≠ 0

/-- The bytes of the module are told, read and compiled. -/
structure Loads (guest : Guest.Module) : Prop extends x.Sound where
  compiled : ∃ w, Container.Reads x.read x.code w ∧ x.engine w = .ok guest

/-- The guest is instantiated: it imports only what the host has, its data fit, and its start runs
to the end. -/
structure Starts (guest : Guest.Module) (m : Machine) (t : List Output) : Prop
    extends x.Loads guest where
  imports : ∀ i ∈ guest.imports, i ∈ Guest.hostImports
  data : ∀ segment ∈ guest.data, segment.1 + segment.2.size ≤ guest.blankMemory.size
  starts : guest.Starts x.config.display x.surroundings.clock m t

/-- The memory is exported under its name. -/
structure Shows (guest : Guest.Module) (m : Machine) (t : List Output) : Prop
    extends x.Starts guest m t where
  memory : guest.exports.lookup Guest.memoryName = some .memory

/-- All stages pass. -/
structure Accepts (guest : Guest.Module) (m : Machine) (t : List Output) : Prop
    extends x.Shows guest m t where
  complete : Guest.Exports.Complete guest.exports

/-- All stages before one pass, and this one fails with the error. -/
inductive Refuses : Error → Prop
  | config {d : Config.Defect} (h : x.config.BreaksFirst d) : Refuses (.config (.invalid d.message))
  | rom (h : x.config.Valid) (hr : x.rom.size = 0) : Refuses .emptyRom
  | format (h : x.Sound) (hf : Container.Format.ofBytes? x.code = none) :
      Refuses (.load .unrecognized)
  | text (h : x.Sound) (hf : Container.Format.ofBytes? x.code = some .text)
      (hr : x.read x.code = none) : Refuses (.load .badText)
  | binary {w : ByteArray} {causes : List String} (h : x.Sound)
      (hw : Container.Reads x.read x.code w) (he : x.engine w = .error causes) :
      Refuses (.load (.badBinary causes))
  | imports {guest : Guest.Module} (h : x.Loads guest)
      (hi : ∃ i ∈ guest.imports, i ∉ Guest.hostImports) : Refuses (.setup ["unknown import"])
  | data {guest : Guest.Module} (h : x.Loads guest)
      (hi : ∀ i ∈ guest.imports, i ∈ Guest.hostImports)
      (hd : ∃ segment ∈ guest.data, guest.blankMemory.size < segment.1 + segment.2.size) :
      Refuses (.setup [Trap.memoryBounds.message])
  | start {guest : Guest.Module} {memory : Memory} {stop : Stop} {m : Machine} {t : List Output}
      (h : x.Loads guest) (hi : ∀ i ∈ guest.imports, i ∈ Guest.hostImports)
      (hw : writeSegments guest.blankMemory guest.data = some memory)
      (hrun : (guest.start.getD (.ret ())).run .guest
        (.ofModule guest memory x.config.display x.surroundings.clock) = ⟨.error stop, m, t⟩) :
      Refuses (.setup [stop.cause])
  | memory {guest : Guest.Module} {m : Machine} {t : List Output} (h : x.Starts guest m t)
      (hm : guest.exports.lookup Guest.memoryName ≠ some .memory) : Refuses .missingMemory
  | required {guest : Guest.Module} {m : Machine} {t : List Output} {e : Entry}
      (h : x.Shows guest m t) (he : Guest.Exports.LacksFirst guest.exports e) :
      Refuses (.missingExport e.name)

/-- A new session, and what has come out on the way to it. -/
structure Opens (guest : Guest.Module) (m : Machine) (s : Session) (t : List Output) : Prop where
  config : s.config = x.config
  rom : s.rom = x.rom
  machine : s.vm.machine = m
  lifecycle : s.lifecycle = .unbooted
  faulted : s.vm.faulted = false
  mask : s.mask = 0
  snapshot : s.snapshot = none
  uncalled : calls t = []
  resolves : Guest.Exports.Resolves guest.exports s.vm.entry
  found : ∀ e, s.vm.entry.has e = true ↔ Guest.Exports.Offers guest.exports e
  noted : ∀ e, t.count (.note (.exportMissing e)) = if s.vm.entry.has e then 0 else 1

end Materials

end Session

/-- Segments are written if each of them fits. -/
theorem isSome_writeSegments_iff {m : Memory} {segments : List (Nat × ByteArray)} :
    (writeSegments m segments).isSome = true ↔
      ∀ segment ∈ segments, segment.1 + segment.2.size ≤ m.size := by
  induction segments generalizing m with
  | nil => exact iff_of_true rfl (List.forall_mem_nil _)
  | cons segment rest ih =>
    obtain ⟨addr, bytes⟩ := segment
    rw [List.forall_mem_cons, writeSegments, Memory.store?]
    by_cases hfits : addr + bytes.size ≤ m.size
    · have hsize : Memory.size { m with bytes := Bytes.overwrite m.bytes addr bytes } = m.size :=
        Bytes.size_overwrite hfits
      rw [if_pos hfits, Option.bind_some, ih, and_iff_right hfits, hsize]
    · rw [if_neg hfits]
      exact iff_of_false nofun fun h => hfits h.1

namespace Container

variable {read : Assembler} {code w : ByteArray}

theorem Reads.binaryFormBy_eq (h : Reads read code w) :
    ∃ format, binaryFormBy read code = .ok (format, w) := by
  cases h with
  | binary h => exact ⟨.binary, by simp only [binaryFormBy, h]⟩
  | text h hw => exact ⟨.text, by simp only [binaryFormBy, h, hw]⟩

theorem binaryFormBy_cases (read : Assembler) (code : ByteArray) :
    (∃ w, Reads read code w) ∨ Format.ofBytes? code = none ∨
      Format.ofBytes? code = some .text ∧ read code = none := by
  cases hf : Format.ofBytes? code with
  | none => exact .inr (.inl rfl)
  | some format =>
    cases format with
    | binary => exact .inl ⟨code, .binary hf⟩
    | text =>
      cases hr : read code with
      | none => exact .inr (.inr ⟨rfl, rfl⟩)
      | some w => exact .inl ⟨w, .text hf hr⟩

end Container

namespace Guest.Module

variable {σ : Type} {guest : Module} {display : Config.Display} {clock : Clock}

theorem instantiate_of_unknown (h : ∃ i ∈ guest.imports, i ∉ hostImports) (st : σ) :
    (guest.instantiate display clock : Act Error σ Instance) st =
      ⟨.error (.setup ["unknown import"]), st, []⟩ := by
  have hany : guest.imports.any (· ∉ hostImports) = true := by simpa using h
  rw [instantiate, if_pos hany]
  rfl

section Known

variable (hi : ∀ i ∈ guest.imports, i ∈ hostImports)
include hi

theorem not_any_unknown : ¬guest.imports.any (· ∉ hostImports) = true := by
  simpa using hi

theorem instantiate_of_misfit (h : writeSegments guest.blankMemory guest.data = none) (st : σ) :
    (guest.instantiate display clock : Act Error σ Instance) st =
      ⟨.error (.setup [Trap.memoryBounds.message]), st, []⟩ := by
  unfold instantiate
  rw [if_neg (not_any_unknown hi), h]
  rfl

theorem instantiate_of_stop {memory : Memory} {stop : Stop} {m : Machine} {t : List Output}
    (hw : writeSegments guest.blankMemory guest.data = some memory)
    (hrun : (guest.start.getD (.ret ())).run .guest (.ofModule guest memory display clock) =
      ⟨.error stop, m, t⟩) (st : σ) :
    (guest.instantiate display clock : Act Error σ Instance) st =
      ⟨.error (.setup [stop.cause]), st, t⟩ := by
  unfold instantiate
  rw [if_neg (not_any_unknown hi), hw]
  refine Act.bind_of_error ?_
  rw [runStart, hrun]
  cases stop <;> rfl

end Known

/-- A machine finds the memory if the module exports it under its name. -/
theorem Starts.exported_iff {m : Machine} {t : List Output} (h : guest.Starts display clock m t) :
    m.exported = true ↔ guest.exports.lookup memoryName = some .memory := by
  obtain ⟨memory, -, hrun⟩ := h
  rw [(Code.held_of_run hrun).exported]
  change exportsMemory guest.exports = true ↔ _
  unfold exportsMemory
  split
  · next hm => exact iff_of_true rfl hm
  · next hm => exact iff_of_false Bool.false_ne_true hm

end Guest.Module

namespace Vm

variable {σ : Type} {guest : Guest.Module} {display : Config.Display} {clock : Clock} {st : σ}

theorem ofModule_of_stuck {e : Error} {t : List Output}
    (h : (guest.instantiate display clock : Act Error σ Instance) st = ⟨.error e, st, t⟩) :
    ((ofModule guest display clock : Act Error σ Vm) st).result = .error e := by
  rw [ofModule, Act.bind_of_error h]

variable {m : Machine} {t : List Output} (hi : ∀ i ∈ guest.imports, i ∈ Guest.hostImports)
  (h : guest.Starts display clock m t)
include hi h

theorem ofModule_of_hidden (hm : m.exported = false) :
    ((ofModule guest display clock : Act Error σ Vm) st).result = .error .missingMemory := by
  rw [ofModule, Act.bind_of_ok (h.instantiate hi st)]
  simp only [hm, Bool.not_false, if_true, Act.fail_bind, Act.fail]

theorem ofModule_of_lacksFirst (hm : m.exported = true) {e : Entry}
    (he : Guest.Exports.LacksFirst guest.exports e) :
    ((ofModule guest display clock : Act Error σ Vm) st).result =
      .error (.missingExport e.name) := by
  have hentry := Act.eq_of_result (Guest.entrypoints_of_lacksFirst he st)
  rw [ofModule, Act.bind_of_ok (h.instantiate hi st)]
  simp only [hm, Bool.not_true, Bool.false_eq_true, if_false]
  rw [Act.bind_of_error hentry]

end Vm

namespace Session.Materials

variable {σ : Type} {x : Materials} {guest : Guest.Module} {m : Machine} {t : List Output}

theorem load_of_reads {w : ByteArray} (h : Container.Reads x.read x.code w) :
    x.load = match x.engine w with
      | .error causes => .error (.load (.badBinary causes))
      | .ok guest => .ok guest := by
  obtain ⟨format, hform⟩ := h.binaryFormBy_eq
  cases he : x.engine w <;> simp only [load, Guest.Engine.load, hform, he]

theorem Loads.load_eq (h : x.Loads guest) : x.load = .ok guest := by
  obtain ⟨-, w, hw, he⟩ := h
  rw [load_of_reads hw, he]

section Make

theorem make_of_invalid {e : Config.Error} (h : x.config.validate = .error e) (st : σ) :
    (x.make st).result = .error (.config e) := by
  unfold make create
  rw [h]
  rfl

theorem make_of_empty (h : x.config.Valid) (hr : x.rom.size = 0) (st : σ) :
    (x.make st).result = .error .emptyRom := by
  unfold make create
  rw [Config.validate_eq_ok_iff.mpr h, if_pos hr]
  rfl

theorem Sound.make_eq (h : x.Sound) (st : σ) : x.make st = (do
    let guest ← Act.ofExcept x.load
    let vm ← Vm.ofModule guest x.config.display x.surroundings.clock
    Act.note (.instantiated x.config.display.width x.config.display.height x.rom.size)
    return x.session vm : Act Error σ Session) st := by
  unfold make create
  rw [Config.validate_eq_ok_iff.mpr h.config, if_neg h.rom]
  rfl

theorem Sound.make_of_load_error (h : x.Sound) {e : Error} (he : x.load = .error e) (st : σ) :
    (x.make st).result = .error e := by
  rw [h.make_eq, he]
  rfl

theorem Loads.make_eq (h : x.Loads guest) (st : σ) : x.make st = (do
    let vm ← Vm.ofModule guest x.config.display x.surroundings.clock
    Act.note (.instantiated x.config.display.width x.config.display.height x.rom.size)
    return x.session vm : Act Error σ Session) st := by
  rw [h.toSound.make_eq, h.load_eq]
  rfl

theorem Loads.make_of_error (h : x.Loads guest) {e : Error} {st : σ}
    (he : (Vm.ofModule guest x.config.display x.surroundings.clock st : Outcome Error σ Vm).result =
      .error e) : (x.make st).result = .error e := by
  rw [h.make_eq, Act.bind_of_error (Act.eq_of_result he)]

end Make

theorem Shows.exported (h : x.Shows guest m t) : m.exported = true :=
  h.starts.exported_iff.mpr h.memory

/-- What passes all stages makes a session. -/
theorem Accepts.make_eq (h : x.Accepts guest m t) (st : σ) :
    ∃ g, Guest.Exports.Resolves guest.exports g ∧ x.make st =
      ⟨.ok (x.session { machine := m, entry := g }), st, t ++ g.lackNotes Entry.features ++
        [.note (.instantiated x.config.display.width x.config.display.height x.rom.size)]⟩ := by
  obtain ⟨hresolves, hentry⟩ := Guest.entrypoints_of_complete h.complete st
  have hvm := Vm.ofModule_of_starts h.starts h.exported h.imports hentry
  refine ⟨_, hresolves, ?_⟩
  rw [h.toLoads.make_eq, Act.bind_of_ok hvm]
  rfl

/-- One case for each way in which a stage fails. -/
theorem Refuses.result_make {e : Error} (h : x.Refuses e) (st : σ) :
    (x.make st).result = .error e := by
  cases h with
  | config h => exact make_of_invalid (Config.validate_eq_error_iff.mpr ⟨_, rfl, h⟩) st
  | rom h hr => exact make_of_empty h hr st
  | format h hf =>
    have hload : x.load = .error (.load .unrecognized) := by
      simp only [load, Guest.Engine.load, Container.binaryFormBy, hf]
    exact h.make_of_load_error hload st
  | text h hf hr =>
    have hload : x.load = .error (.load .badText) := by
      simp only [load, Guest.Engine.load, Container.binaryFormBy, hf, hr]
    exact h.make_of_load_error hload st
  | @binary w causes h hw he =>
    have hload : x.load = .error (.load (.badBinary causes)) := by
      rw [load_of_reads hw, he]
    exact h.make_of_load_error hload st
  | imports h hi =>
    exact h.make_of_error (Vm.ofModule_of_stuck (Guest.Module.instantiate_of_unknown hi st))
  | @data guest h hi hd =>
    obtain ⟨segment, hmem, hover⟩ := hd
    have hnone : writeSegments guest.blankMemory guest.data = none := by
      rw [← Option.not_isSome_iff_eq_none, isSome_writeSegments_iff]
      exact fun hfits => Nat.not_le.mpr hover (hfits segment hmem)
    exact h.make_of_error (Vm.ofModule_of_stuck (Guest.Module.instantiate_of_misfit hi hnone st))
  | start h hi hw hrun =>
    exact h.make_of_error (Vm.ofModule_of_stuck (Guest.Module.instantiate_of_stop hi hw hrun st))
  | memory h hm =>
    have hhidden := Bool.eq_false_iff.mpr fun he => hm (h.starts.exported_iff.mp he)
    exact h.toLoads.make_of_error (Vm.ofModule_of_hidden h.imports h.starts hhidden)
  | required h he =>
    exact h.toLoads.make_of_error
      (Vm.ofModule_of_lacksFirst h.imports h.starts h.exported he)

/-- Stage by stage: nothing is left out. -/
theorem loads_or_refuses (h : x.Sound) : (∃ guest, x.Loads guest) ∨ ∃ e, x.Refuses e := by
  rcases Container.binaryFormBy_cases x.read x.code with ⟨w, hw⟩ | hf | ⟨hf, hr⟩
  · cases he : x.engine w with
    | error causes => exact .inr ⟨_, .binary h hw he⟩
    | ok guest => exact .inl ⟨guest, h, w, hw, he⟩
  · exact .inr ⟨_, .format h hf⟩
  · exact .inr ⟨_, .text h hf hr⟩

theorem starts_or_refuses (h : x.Loads guest) :
    (∃ m t, x.Starts guest m t) ∨ ∃ e, x.Refuses e := by
  by_cases hi : ∃ i ∈ guest.imports, i ∉ Guest.hostImports
  · exact .inr ⟨_, .imports h hi⟩
  · have hknown : ∀ i ∈ guest.imports, i ∈ Guest.hostImports := by simpa using hi
    by_cases hd : ∃ segment ∈ guest.data, guest.blankMemory.size < segment.1 + segment.2.size
    · exact .inr ⟨_, .data h hknown hd⟩
    · have hfits : ∀ segment ∈ guest.data,
          segment.1 + segment.2.size ≤ guest.blankMemory.size := by simpa using hd
      obtain ⟨memory, hw⟩ := Option.isSome_iff_exists.mp (isSome_writeSegments_iff.mpr hfits)
      rcases hrun : (guest.start.getD (.ret ())).run .guest (.ofModule guest memory
        x.config.display x.surroundings.clock) with ⟨stop | _, m, t⟩
      · exact .inr ⟨_, .start h hknown hw hrun⟩
      · exact .inl ⟨m, t, h, hknown, hfits, memory, hw, hrun⟩

theorem accepts_or_refuses (x : Materials) :
    (∃ guest m t, x.Accepts guest m t) ∨ ∃ e, x.Refuses e := by
  by_cases hconfig : x.config.Valid
  · by_cases hrom : x.rom.size = 0
    · exact .inr ⟨_, .rom hconfig hrom⟩
    · rcases loads_or_refuses ⟨hconfig, hrom⟩ with ⟨guest, hloads⟩ | hrefuses
      · rcases starts_or_refuses hloads with ⟨m, t, hstarts⟩ | hrefuses
        · by_cases hm : guest.exports.lookup Guest.memoryName = some .memory
          · rcases Guest.complete_or_lacksFirst guest.exports with hcomplete | ⟨e, he⟩
            · exact .inl ⟨guest, m, t, ⟨hstarts, hm⟩, hcomplete⟩
            · exact .inr ⟨_, .required ⟨hstarts, hm⟩ he⟩
          · exact .inr ⟨_, .memory hstarts hm⟩
        · exact .inr hrefuses
      · exact .inr hrefuses
  · rw [← Config.defect?_eq_none_iff, ← Ne, Option.ne_none_iff_exists'] at hconfig
    obtain ⟨d, hd⟩ := hconfig
    exact .inr ⟨_, .config (Config.defect?_eq_some_iff.mp hd)⟩

theorem count_lackNotes (g : Guest.Entrypoints) (e : Entry) :
    (g.lackNotes Entry.features).count (.note (.exportMissing e)) = if g.has e then 0 else 1 := by
  cases he : g.has e with
  | true =>
    refine List.count_eq_zero_of_not_mem fun hmem => ?_
    cases he.symm.trans (Guest.Entrypoints.mem_lackNotes_features.mp hmem)
  | false =>
    exact List.count_eq_one_of_mem g.nodup_lackNotes_features
      (Guest.Entrypoints.mem_lackNotes_features.mpr he)

/-- A guest's start does not speak for its host. -/
theorem Starts.count_note (h : x.Starts guest m t) (n : Notice) : t.count (.note n) = 0 := by
  obtain ⟨memory, -, hrun⟩ := h.starts
  exact List.count_eq_zero_of_not_mem fun hmem => nomatch (Code.held_of_run hrun).shown _ hmem

theorem Accepts.opens {g : Guest.Entrypoints} (h : x.Accepts guest m t)
    (hg : Guest.Exports.Resolves guest.exports g) {last : Notice}
    (hlast : ∀ e, last ≠ .exportMissing e) :
    x.Opens guest m (x.session { machine := m, entry := g })
      (t ++ g.lackNotes Entry.features ++ [.note last]) where
  config := rfl
  rom := rfl
  machine := rfl
  lifecycle := rfl
  faulted := rfl
  mask := show (0 : UInt8) ||| 0 = 0 from rfl
  snapshot := rfl
  uncalled := by
    obtain ⟨memory, -, hrun⟩ := h.starts
    rw [calls_append, calls_append, calls_of_fromGuest (Code.held_of_run hrun).shown,
      calls_of_fromHost (g.fromHost_lackNotes Entry.features)]
    rfl
  resolves := hg
  found := hg.has_iff
  noted e := by
    have hnone : [Output.note last].count (.note (.exportMissing e)) = 0 :=
      List.count_eq_zero_of_not_mem fun hmem => by
        cases List.mem_singleton.mp hmem
        exact hlast e rfl
    rw [List.count_append, List.count_append, h.toStarts.count_note, count_lackNotes, hnone,
      Nat.zero_add, Nat.add_zero]
    rfl

/-- A session is made exactly of what passes all stages, and what does not pass fails with the
error of the first stage that it does not pass. What is made has not been run, holds what its guest
offers and has noted once each feature that its guest lacks. -/
theorem make_exact (x : Materials) (st : σ) :
    ((∃ s, (x.make st).result = .ok s) ↔ ∃ guest m t, x.Accepts guest m t) ∧
    (∀ e, (x.make st).result = .error e ↔ x.Refuses e) ∧
    (∀ s st' t, x.make st = ⟨.ok s, st', t⟩ →
      ∃ guest m t₀, x.Accepts guest m t₀ ∧ x.Opens guest m s t) ∧
    ∀ read engine config code rom surroundings,
      (create read engine config code rom surroundings : Act Error σ Session) =
        make ⟨read, engine, config, code, rom, surroundings⟩ := by
  rcases x.accepts_or_refuses with ⟨guest, m, t, hx⟩ | ⟨e, hx⟩
  · obtain ⟨g, hg, hmake⟩ := hx.make_eq st
    refine ⟨?_, fun e => ?_, fun s st' t' hs => ?_, fun _ _ _ _ _ _ => rfl⟩
    · exact iff_of_true ⟨_, congrArg Outcome.result hmake⟩ ⟨guest, m, t, hx⟩
    · refine iff_of_false (fun he => ?_) fun he => ?_
      · cases (congrArg Outcome.result hmake).symm.trans he
      · cases (congrArg Outcome.result hmake).symm.trans (he.result_make st)
    · cases hmake.symm.trans hs
      exact ⟨guest, m, t, hx, hx.opens hg nofun⟩
  · have hmake := hx.result_make st
    refine ⟨iff_of_false ?_ ?_, fun e' => ⟨fun he => ?_, fun he => he.result_make st⟩,
      fun s st' t hs => ?_, fun _ _ _ _ _ _ => rfl⟩
    · rintro ⟨s, hs⟩
      cases hmake.symm.trans hs
    · rintro ⟨guest, m, t, h⟩
      obtain ⟨g, -, hok⟩ := h.make_eq st
      cases hmake.symm.trans (congrArg Outcome.result hok)
    · cases hmake.symm.trans he
      exact hx
    · cases hmake.symm.trans (congrArg Outcome.result hs)

/-- What the session of a guest is made of. -/
def ofGuest (guest : Guest.Module) : Materials where
  read _ := none
  engine := guest.engine
  config := {}
  code := Container.emptyModule
  rom := ⟨#[0xa0]⟩
  surroundings := ⟨quiet.vm.machine.clock, none⟩

theorem shows_ofGuest (hi : ∀ i ∈ guest.imports, i ∈ Guest.hostImports) (hd : guest.data = [])
    (hs : guest.start = none) (hm : guest.exports.lookup Guest.memoryName = some .memory) :
    (ofGuest guest).Shows guest
      (.ofModule guest guest.blankMemory {} quiet.vm.machine.clock) [] where
  config := Config.valid_default
  rom := Nat.one_ne_zero
  compiled := ⟨_, .binary rfl, guest.engine_emptyModule⟩
  imports := hi
  data := hd ▸ List.forall_mem_nil _
  starts := ⟨guest.blankMemory, by rw [hd]; rfl, by rw [hs]; rfl⟩
  memory := hm

/-- A guest that exports a global where a function must be and lacks another function altogether. -/
def misfit : Guest.Module where
  memory := some ⟨1, none⟩
  exports := [
    (Guest.memoryName, .memory),
    (Entry.init.name, .func (.own ⟨[], []⟩ fun _ => .ret ())),
    (Entry.onUpdate.name, .global)]

/-- The quiet guest is accepted and its missing wheel noted once; of the two faults of the other
guest the first one is told. -/
theorem make_exact_quiet :
    (∃ s t, (ofGuest .quiet).make () = ⟨.ok s, (), t⟩ ∧ s.lifecycle = .unbooted ∧
      t.count (.note (.exportMissing .onWheelEvent)) = 1) ∧
    ((ofGuest misfit).make () : Outcome Error Unit Session).result =
      .error (.missingExport Entry.onUpdate.name) := by
  obtain ⟨haccepts, -, hopens, -⟩ := make_exact (ofGuest .quiet) ()
  obtain ⟨-, hrefuses, -⟩ := make_exact (ofGuest misfit) ()
  constructor
  · have hquiet : (ofGuest .quiet).Accepts .quiet _ _ := {
      shows_ofGuest (fun _ => id) rfl rfl rfl with
      complete := ⟨⟨_, rfl, by decide⟩, ⟨_, rfl, by decide⟩, ⟨_, rfl, by decide⟩⟩ }
    obtain ⟨s, hs⟩ := haccepts.mpr ⟨_, _, _, hquiet⟩
    have hmake := Act.eq_of_result hs
    obtain ⟨guest, m, t₀, hguest, hs⟩ := hopens _ _ _ hmake
    obtain ⟨w, -, hw⟩ := hguest.compiled
    cases Guest.Module.eq_of_engine hw
    refine ⟨s, _, hmake, hs.lifecycle, ?_⟩
    have hlacks : ¬s.vm.entry.has .onWheelEvent = true := by
      rw [hs.found]
      rintro ⟨f, hf, -⟩
      cases hf
    rw [hs.noted, if_neg hlacks]
  · refine (hrefuses _).mpr (.required (shows_ofGuest (List.forall_mem_nil _) rfl rfl rfl) ?_)
    refine .onUpdate ⟨_, rfl, by decide⟩ ?_
    rintro ⟨f, hf, -⟩
    cases hf

end Session.Materials

end GuestHost
