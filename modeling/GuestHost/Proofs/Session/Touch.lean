import GuestHost.Proofs.Calls
import GuestHost.Proofs.Session.Boot
import GuestHost.Proofs.Session.Fault
import GuestHost.Proofs.Session.Lifecycle
import GuestHost.Proofs.Work

/-! Who changes the memory of a guest, and where. The host writes the image when it boots and the
snapshot when it restores, each where the guest has just said that it belongs, and the time where
guest code asks for it. All else is the guest's own work. -/
namespace GuestHost

namespace Guest.Entrypoints

variable {g : Entrypoints} {m m' : Machine} {r : Except Stop Unit} {t : List Output}

theorem works_romPtr {m₀ : Machine} {r₂ : Except Stop UInt32} {t₂ : List Output}
    (hinit : g.init.run m₀ = ⟨r, m, t⟩) (hptr : g.romPtr.run m = ⟨r₂, m', t₂⟩) :
    g.works [.init] m₀ = m ∧ g.works [.init, .romPtr] m₀ = m' := by
  have hfirst : g.works [.init] m₀ = m := congrArg Outcome.state hinit
  have hsecond : g.work .romPtr m = m' := by
    rw [work_of_routine rfl, hptr]
  refine ⟨hfirst, ?_⟩
  rw [← hsecond, ← hfirst]
  rfl

theorem works_main (h : g.main m = ⟨r, m', t⟩) : g.works (calls t) m = m' := by
  rw [(said_of_main h).2]
  unfold main at h
  cases hmain : g.runMain with
  | none =>
    rw [hmain] at h
    cases h
    rfl
  | some routine =>
    rw [hmain] at h
    cases h
    have hwork : g.routine? .runMain = some routine.discard := by
      rw [routine?, hmain, Routine.discard_unit]
    exact work_of_routine hwork m

end Guest.Entrypoints

namespace Snapshot

variable {vm : Vm} {ptr size : UInt32} {m : Machine}

/-- A guest that declares its state is asked for both ends of it, and nothing else happens to it. -/
theorem makes_region (hf : vm.faulted = false) (h : vm.Declares ptr size m) :
    region.Makes vm [.statePtr, .stateSize] (.ok (ptr, size)) { vm with machine := m } ∧
      vm.entry.works [.statePtr, .stateSize] vm.machine = m := by
  obtain ⟨t, ht⟩ := Vm.declaredState_of_declares hf h
  have hcalls : calls t = [.statePtr, .stateSize] := by
    obtain ⟨askPtr, askSize, -, -, -, hp, hs, -, -⟩ := h
    rcases Vm.Asks.declaredState vm with ⟨a, m', t', ht', hcs⟩ | ⟨e, vm', t', ht', -⟩
    · cases ht.symm.trans ht'
      simpa [Guest.Entrypoints.offers, Guest.Entrypoints.routine?, hp, hs] using hcs
    · cases ht.symm.trans ht'
  have hown := ((Vm.OwnWork.uses id).declaredState vm rfl).2
  rw [ht, hcalls] at hown
  exact ⟨Vm.makes_region ⟨t, ht, hcalls⟩, hown.symm⟩

end Snapshot

namespace Session

variable {s : Session} {op : Operation} {cs : List Call} {m m' : Machine} {ptr : UInt32}
  {memory : Memory} {r : Except Error Unit} {t : List Output}

/-- The changes of guest memory that come with an operation which makes these calls. -/
inductive Changes (s : Session) (op : Operation) : List Call → List Touch → Prop where
  | own (cs : List Call) : Changes s op cs (s.vm.entry.touches cs s.vm.machine)
  | loaded {ptr : UInt32} {memory : Memory} (cs : List Call)
      (hop : op.request s.config.hotkeys = .start)
      (hptr : (s.vm.entry.romPtr.run (s.vm.entry.works [.init] s.vm.machine)).result = .ok ptr)
      (hw : (s.vm.entry.works [.init, .romPtr] s.vm.machine).memory.write ptr s.loadedRom =
        .ok memory) :
      Changes s op (.init :: .romPtr :: cs)
        (s.vm.entry.touches [.init, .romPtr] s.vm.machine ++ .written ptr s.loadedRom ::
          s.vm.entry.touches cs { s.vm.entry.works [.init, .romPtr] s.vm.machine with memory })
  | restored {ask : Routine UInt32} {ptr : UInt32} {snapshot : Snapshot}
      (hop : op.request s.config.hotkeys = .restore) (hs : s.snapshot = some snapshot)
      (hask : s.vm.entry.statePtr = some ask) (hptr : (ask.run s.vm.machine).result = .ok ptr) :
      Changes s op [.statePtr, .stateSize]
        (s.vm.entry.touches [.statePtr, .stateSize] s.vm.machine ++ [.written ptr snapshot.bytes])
  | poked {addr : UInt32} {bytes : ByteArray} (hop : op = .poke addr bytes) :
      Changes s op [] [.written addr bytes]

/-- A gesture is nothing to the guest. -/
theorem Changes.of_woken {touches : List Touch} (h : s.woken.Changes op cs touches) :
    s.Changes op cs touches := by
  cases h with
  | own cs => exact .own cs
  | loaded cs hop hptr hw => exact .loaded cs hop hptr hw
  | restored hop hs hask hptr => exact .restored hop hs hask hptr
  | poked hop => exact .poked hop

/-- Such changes lead to this memory. -/
def Drifts (s : Session) (op : Operation) (cs : List Call) (memory : Memory) : Prop :=
  ∃ touches, s.Changes op cs touches ∧ Touch.replay? s.vm.memory touches = some memory

namespace Drifts

theorem own (h : s.vm.entry.works cs s.vm.machine = m) : s.Drifts op cs m.memory :=
  ⟨_, .own cs, h ▸ Guest.Entrypoints.replay?_touches cs s.vm.machine⟩

theorem of_woken (h : s.woken.Drifts op cs memory) : s.Drifts op cs memory := by
  obtain ⟨touches, hchanges, hreplay⟩ := h
  exact ⟨touches, hchanges.of_woken, hreplay⟩

theorem of_makes {x : Act Error Session Unit} {s' : Session} (h : x.Makes s cs r s')
    (hdrifts : s.Drifts op cs s'.vm.memory) :
    s.Drifts op (calls (x s).trace) (x s).state.vm.memory := by
  obtain ⟨t, ht, rfl⟩ := h
  rw [ht]
  exact hdrifts

end Drifts

theorem Prepares.works (h : s.Prepares ptr m t) :
    (s.vm.entry.romPtr.run (s.vm.entry.works [.init] s.vm.machine)).result = .ok ptr ∧
      s.vm.entry.works [.init, .romPtr] s.vm.machine = m := by
  obtain ⟨m₁, t₁, t₂, hinit, hptr, -⟩ := h
  obtain ⟨hfirst, hboth⟩ := Guest.Entrypoints.works_romPtr hinit hptr
  rw [hfirst, hptr]
  exact ⟨rfl, hboth⟩

/-- The guest is started on the image. -/
theorem Prepares.drifts (hop : op.request s.config.hotkeys = .start) (h : s.Prepares ptr m t)
    (hw : m.memory.write ptr s.loadedRom = .ok memory) {r : Except Stop Unit} {t' : List Output}
    (hmain : s.vm.entry.main { m with memory } = ⟨r, m', t'⟩) :
    s.Drifts op (.init :: .romPtr :: calls t') m'.memory := by
  obtain ⟨hptr, rfl⟩ := h.works
  refine ⟨_, .loaded (calls t') hop hptr hw, ?_⟩
  have hwritten := Touch.after?_written hw
  have hbefore := Guest.Entrypoints.replay?_touches (g := s.vm.entry) [.init, .romPtr] s.vm.machine
  refine (Touch.replay?_append _ hbefore).trans ((Touch.replay?_cons _ hwritten).trans ?_)
  rw [← Guest.Entrypoints.works_main hmain]
  exact Guest.Entrypoints.replay?_touches _ { s.vm.entry.works _ s.vm.machine with memory }

/-- One case for each way in which a boot can end. -/
theorem drifts_boot (hop : op.request s.config.hotkeys = .start) :
    s.Drifts op (calls (boot s).trace) (boot s).state.vm.memory := by
  by_cases hf : s.vm.faulted = true
  · rw [boot_of_faulted hf]
    exact .own rfl
  · have hopen := Bool.eq_false_iff.mpr hf
    obtain ⟨r, vm, t, hway⟩ := exists_bringsUp s
    obtain ⟨l, hstate⟩ := hway.boot_eq hopen
    rw [(hway.said hopen).1, hstate]
    change s.Drifts op (calls t) vm.memory
    cases hway with
    | initStops hinit =>
      rw [List.cons_append, calls_call, calls_append, calls_of_run hinit]
      exact .own (congrArg Outcome.state hinit)
    | ptrStops hinit hptr =>
      simp only [List.cons_append, calls_call, calls_append, calls_of_run hinit, calls_of_run hptr,
        calls_truncation, calls_note, List.nil_append]
      exact .own (Guest.Entrypoints.works_romPtr hinit hptr).2
    | misfits h hover =>
      rw [h.said.1]
      exact .own h.works.2
    | @mainStops ptr m m' memory stop t t' h hw hmain =>
      rw [calls_append, h.said.1, calls_note, calls_append]
      change s.Drifts op (.init :: .romPtr :: (calls t' ++ [])) m'.memory
      rw [List.append_nil]
      exact h.drifts hop hw hmain
    | @ends ptr m m' memory t t' h hw hmain =>
      rw [calls_append, h.said.1, calls_note, calls_append,
        calls_of_fromGuest (fromGuest_lines _), List.append_nil]
      change s.Drifts op _ m'.memory
      exact h.drifts hop hw hmain

/-- The snapshot goes where the guest has just said that its state is. -/
theorem exists_drifts_restore {snapshot : Snapshot} (hop : op.request s.config.hotkeys = .restore)
    (hs : s.snapshot = some snapshot) :
    ∃ cs r vm, snapshot.restore.Makes s.vm cs r vm ∧ s.Drifts op cs vm.memory := by
  rcases hr : Snapshot.region s.vm with ⟨e | ⟨ptr, size⟩, vm, t⟩
  · have hown := (Vm.OwnWork.uses (P := fun _ => True) fun _ => trivial).region trivial s.vm rfl
    rw [hr] at hown
    exact ⟨_, _, vm, .of_eq (Act.bind_of_error hr), .own hown.2.symm⟩
  · obtain ⟨hf, m, hm, -⟩ := Snapshot.declares_of_region (congrArg Outcome.result hr)
    obtain ⟨hregion, hworks⟩ := Snapshot.makes_region hf hm
    let asked : Vm := { s.vm with machine := m }
    cases hw : asked.memory.write ptr snapshot.bytes with
    | error e =>
      exact ⟨_, _, _, Vm.makes_restore hregion ⟨[], Vm.write_of_error hw, rfl⟩, .own hworks⟩
    | ok memory =>
      have hrestore := Vm.makes_restore hregion ⟨[], Vm.write_of_ok hw, rfl⟩
      obtain ⟨ask, -, m₁, t₁, -, hask, -, hptr, -⟩ := hm
      refine ⟨_, _, _, hrestore, _, .restored hop hs hask (congrArg Outcome.result hptr), ?_⟩
      have hbefore := Guest.Entrypoints.replay?_touches (g := s.vm.entry) [.statePtr, .stateSize]
        s.vm.machine
      rw [hworks] at hbefore
      exact (Touch.replay?_append _ hbefore).trans (Touch.replay?_cons [] (Touch.after?_written hw))

theorem drifts_restore (hop : op.request s.config.hotkeys = .restore) :
    s.Drifts op (calls (restore s).trace) (restore s).state.vm.memory := by
  by_cases hs : s.lifecycle = .running
  · cases hsnap : s.snapshot with
    | none =>
      rw [restore_of_none hs hsnap]
      exact .own rfl
    | some snapshot =>
      obtain ⟨cs, r, vm, hmakes, hdrifts⟩ := exists_drifts_restore hop hsnap
      have hall : restore.Makes s cs r { s with vm } :=
        .congr (restore_of_some hs hsnap) ((makes_onVm hmakes).note _)
      exact .of_makes hall hdrifts
  · rw [restore_of_not_running hs]
    exact .own rfl

/-- An operation that neither boots nor restores leaves the guest's memory to the guest. -/
theorem owned_rules (g : Guest.Entrypoints) :
    Rules fun s t _ s' => Vm.OwnWork g s.vm t s'.vm where
  refl s := Vm.OwnWork.law.refl s.vm
  trans := Vm.OwnWork.law.trans
  aside hvm _ ht := .aside ht hvm
  guard s := Vm.OwnWork.law.refl s.vm
  guest hx := .on (hx (Vm.OwnWork.uses Error.Integration.dealing)) id

/-- One case for each way in which the host can come to write. -/
theorem drifts_perform {e : Event}
    (hop : op.request s.config.hotkeys = e.request s.config.hotkeys) :
    s.Drifts op (calls (perform e s).trace) (perform e s).state.vm.memory := by
  by_cases hstart : e.request s.config.hotkeys = Hotkey.reset.request
  · obtain ⟨s₀, t, hs₀, ht, hp⟩ := perform_of_request hstart
    rw [hp, calls_append, calls_of_fromHost ht]
    rcases hs₀ with rfl | rfl
    · exact drifts_boot (hop.trans hstart)
    · exact .of_woken (drifts_boot (s := s.woken) (hop.trans hstart))
  by_cases hrestore : e.request s.config.hotkeys = Hotkey.restore.request
  · obtain ⟨s₀, t, hs₀, ht, hp⟩ := perform_of_request hrestore
    rw [hp, calls_append, calls_of_fromHost ht]
    rcases hs₀ with rfl | rfl
    · exact drifts_restore (hop.trans hrestore)
    · exact .of_woken (drifts_restore (s := s.woken) (hop.trans hrestore))
  · have hown := (owned_rules s.vm.entry).perform (s := s) (e := e)
      (fun hboots => absurd (Request.eq_start_of_boots hboots) hstart) (absurd · hrestore)
    exact .own (hown rfl).2.symm

theorem drifts_act (op : Operation) (s : Session) :
    s.Drifts op (calls (op.act s).trace) (op.act s).state.vm.memory := by
  rcases op.event_or_poke with ⟨e, he⟩ | ⟨addr, bytes, rfl⟩
  · rw [(act_of_event he s).1, calls_of_event he]
    exact drifts_perform (Operation.request_of_event he _)
  · cases hw : s.vm.memory.write addr bytes with
    | error e =>
      rw [Operation.act, onVm_eq (Vm.write_of_error hw)]
      exact .own rfl
    | ok memory =>
      rw [Operation.act, onVm_eq (Vm.write_of_ok hw)]
      exact ⟨_, .poked rfl, Touch.replay?_cons [] (Touch.after?_written hw)⟩

/-- The memory after an operation is the memory before it with these changes. Unless it boots,
restores or writes from outside, they are made by guest code; and where guest code runs, the host
writes nothing but the time, where it is asked for it. -/
structure Touched (s : Session) (op : Operation) : Prop where
  drifts : s.Drifts op (calls (op.act s).trace) (op.act s).state.vm.memory
  own : op.request s.config.hotkeys ≠ .start → op.request s.config.hotkeys ≠ .restore →
    (∀ addr bytes, op ≠ .poke addr bytes) →
    Touch.replay? s.vm.memory (s.vm.entry.touches (calls (op.act s).trace) s.vm.machine) =
      some (op.act s).state.vm.memory
  told : ∀ {cs m addr bytes}, .written addr bytes ∈ s.vm.entry.touches cs m →
    ∃ before c later r m', cs = before ++ c :: later ∧ s.vm.entry.routine? c = some r ∧
      (m', .getDateTime addr) ∈ r.code.asks r.caller (s.vm.entry.works before m) ∧
      bytes = (m'.clock m'.readings).record ∧ bytes.size = 16

theorem Drifts.of_own (h : s.Drifts op cs memory) (hstart : op.request s.config.hotkeys ≠ .start)
    (hrestore : op.request s.config.hotkeys ≠ .restore)
    (hpoke : ∀ addr bytes, op ≠ .poke addr bytes) :
    Touch.replay? s.vm.memory (s.vm.entry.touches cs s.vm.machine) = some memory := by
  obtain ⟨touches, hchanges, hreplay⟩ := h
  cases hchanges with
  | own cs => exact hreplay
  | loaded cs hop => exact absurd hop hstart
  | restored hop => exact absurd hop hrestore
  | poked hop => exact absurd hop (hpoke _ _)

theorem touched_act (s : Session) (op : Operation) : s.Touched op where
  drifts := drifts_act op s
  own := (drifts_act op s).of_own
  told h := by
    obtain ⟨before, c, later, r, hcs, hr, htouch⟩ :=
      Guest.Entrypoints.exists_routine_of_mem_touches h
    obtain ⟨m', hask, rfl⟩ := Code.asked_of_mem_touches r.code _ htouch
    exact ⟨before, c, later, r, m', hcs, hr, hask, rfl, rfl⟩

/-- The changes of memory over a run, operation by operation. -/
inductive History : List Operation → Session → List Touch → Prop where
  | nil (s : Session) : History [] s []
  | cons {op : Operation} {rest : List Operation} {s : Session} {touches later : List Touch} :
      s.Changes op (calls (op.act s).trace) touches → History rest (op.act s).state later →
        History (op :: rest) s (touches ++ later)

/-- By induction on the operations: the changes of each go on from the memory that the last one has
left. -/
theorem exists_history (ops : List Operation) (s : Session) :
    ∃ touches, History ops s touches ∧
      Touch.replay? s.vm.memory touches = some (performAll ops s).state.vm.memory := by
  induction ops generalizing s with
  | nil => exact ⟨[], .nil s, rfl⟩
  | cons op rest ih =>
    obtain ⟨touches, hchanges, hreplay⟩ := drifts_act op s
    obtain ⟨later, hhistory, hlater⟩ := ih (op.act s).state
    refine ⟨touches ++ later, .cons hchanges hhistory, ?_⟩
    rw [performAll_cons]
    exact (Touch.replay?_append later hreplay).trans hlater

/-- Memory only grows, and a byte that no change of a run is about is what it was before the run. -/
theorem byteAt_performAll (ops : List Operation) (s : Session) :
    ∃ touches, History ops s touches ∧
      s.vm.memory.size ≤ (performAll ops s).state.vm.memory.size ∧
      ∀ i < s.vm.memory.size, (∀ touch ∈ touches, ¬touch.Covers i) →
        Bytes.byteAt (performAll ops s).state.vm.memory.bytes i =
          Bytes.byteAt s.vm.memory.bytes i := by
  obtain ⟨touches, hhistory, hreplay⟩ := exists_history ops s
  exact ⟨touches, hhistory, Touch.kept_of_replay hreplay⟩

/-- The host writes the image where a boot is told to, the snapshot where a restore is, and the time
where guest code wants it. Each lies within the memory and leaves the rest of it as it is, and what
the host is asked to do it does as a whole or not at all. -/
theorem memory_touched (s : Session) (op : Operation) :
    s.Touched op ∧
      (∀ touch before after, Touch.after? before touch = some after → touch.Leaves before after) ∧
      ∀ m caller c, Machine.Atomic m c (Machine.answer caller c m) :=
  ⟨touched_act s op, fun _ _ _ => Touch.leaves_of_after, Machine.atomic_answer⟩

end Session

end GuestHost
