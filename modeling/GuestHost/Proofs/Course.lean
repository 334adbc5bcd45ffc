import GuestHost.Proofs.Guest.Exports
import GuestHost.Proofs.Guest.Stop
import GuestHost.Proofs.Guest.Visit
import GuestHost.Proofs.Snapshot

/-! The course of dealings with a guest: visit after visit, with what the host says and changes in
between, up to the first visit that fails or the first request that the host turns down itself. -/
namespace GuestHost

/-- Neither what the guest runs nor the host's own changes to memory and console can end it. -/
structure Machine.Stable (P : Machine → Prop) : Prop where
  run : ∀ {routine : Routine Unit} {m m' : Machine} {r : Except Stop Unit} {t : List Output},
    routine.run m = ⟨r, m', t⟩ → P m → P m'
  memory : ∀ {m : Machine} (memory : Memory), P m → P { m with memory }
  console : ∀ {m : Machine} (console : Console), P m → P { m with console }

/-- What every step of guest code keeps is only left to the host. -/
theorem Machine.Stable.of_kept {P : Machine → Prop} (h : Kept fun m _ m' => P m → P m')
    (hmemory : ∀ {m : Machine} (memory : Memory), P m → P { m with memory })
    (hconsole : ∀ {m : Machine} (console : Console), P m → P { m with console }) : Stable P where
  run {routine m _ _ _} hrun hm := by
    have hkept := routine.keeps_run h m hm
    rwa [hrun] at hkept
  memory := hmemory
  console := hconsole

theorem Machine.stable_exported : Stable fun m => m.exported = true where
  run hrun h := (Routine.held_of_run hrun).exported.trans h
  memory _ h := h
  console _ h := h

namespace Vm

/-- Why the host turns a request down with no guest code to blame. -/
inductive Refuses (vm : Vm) : Error → Prop where
  | faulted : vm.faulted = true → Refuses vm .faulted
  | notRunning : Refuses vm .notRunning
  | undeclared : vm.entry.statePtr = none ∨ vm.entry.stateSize = none →
      Refuses vm (.unsupported Entry.getStatePtr.name)
  | outside {addr : UInt32} {len : Nat} : Span.Misses vm.memory.size addr len →
      Refuses vm (.outOfRange addr.toNat len vm.memory.size)

/-- The visits made on the way from one state of the guest to another, what came out meanwhile, and
how it ended. After a refusal or a failed visit the host has only something to say. -/
inductive Course : Vm → List Visit → List Output → Except Error Unit → Vm → Prop where
  | done (vm : Vm) : Course vm [] [] (.ok ()) vm
  | refused {vm : Vm} {t : List Output} {e : Error} : Refuses vm e →
      (∀ o ∈ t, o.fromHost = true) → Course vm [] t (.error e) vm
  | said {vm vm' : Vm} {vs : List Visit} {o : Output} {t : List Output} {r : Except Error Unit} :
      o.fromHost = true → Course vm vs t r vm' → Course vm vs (o :: t) r vm'
  | wrote {vm vm' : Vm} {vs : List Visit} {t : List Output} {r : Except Error Unit}
      {addr : UInt32} {bytes : ByteArray} {memory : Memory} :
      vm.memory.write addr bytes = .ok memory → Course (vm.withMemory memory) vs t r vm' →
        Course vm vs t r vm'
  | flushed {vm vm' : Vm} {vs : List Visit} {t t' : List Output} {r : Except Error Unit}
      {m : Machine} :
      (Machine.flushConsole vm.machine : Outcome Error Machine Unit) = ⟨.ok (), m, t⟩ →
        Course { vm with machine := m } vs t' r vm' → Course vm vs (t ++ t') r vm'
  | returned {vm vm' : Vm} {c : Call} {routine : Routine Unit} {m : Machine} {vs : List Visit}
      {t t' : List Output} {r : Except Error Unit} :
      vm.faulted = false → vm.entry.routine? c = some routine →
        routine.run vm.machine = ⟨.ok (), m, t⟩ → Course { vm with machine := m } vs t' r vm' →
          Course vm (⟨c, routine, vm.machine⟩ :: vs) (.call c :: (t ++ t')) r vm'
  | failed {vm : Vm} {c : Call} {routine : Routine Unit} {stop : Stop} {m : Machine}
      {t t' : List Output} :
      vm.faulted = false → vm.entry.routine? c = some routine →
        routine.run vm.machine = ⟨.error stop, m, t⟩ → (∀ o ∈ t', o.fromHost = true) →
          Course vm [⟨c, routine, vm.machine⟩] (.call c :: (t ++ t')) (.error (stop.error c.entry))
            { vm with machine := m, faulted := true }

namespace Course

variable {vm vm' vm'' : Vm} {vs vs' : List Visit} {t t' : List Output} {r : Except Error Unit}

theorem trans (h : Course vm vs t (.ok ()) vm') (h' : Course vm' vs' t' r vm'') :
    Course vm (vs ++ vs') (t ++ t') r vm'' := by
  generalize hr : (Except.ok () : Except Error Unit) = r₀ at h
  induction h with
  | done vm => exact h'
  | refused => cases hr
  | said ho _ ih => exact .said ho (ih h' hr)
  | wrote hw _ ih => exact .wrote hw (ih h' hr)
  | flushed hm _ ih =>
    rw [List.append_assoc]
    exact .flushed hm (ih h' hr)
  | returned hf hc hrun _ ih =>
    rw [List.cons_append, List.cons_append, List.append_assoc]
    exact .returned hf hc hrun (ih h' hr)
  | failed => cases hr

/-- The host may always have something to say in the end. -/
theorem trail {o : Output} (ho : o.fromHost = true) (h : Course vm vs t r vm') :
    Course vm vs (t ++ [o]) r vm' := by
  have hsaid : ∀ {t : List Output}, (∀ o ∈ t, o.fromHost = true) →
      ∀ o' ∈ t ++ [o], o'.fromHost = true := by
    intro t ht o' ho'
    rcases List.mem_append.mp ho' with hmem | hmem
    · exact ht o' hmem
    · rw [List.mem_singleton.mp hmem]
      exact ho
  induction h with
  | done vm => exact .said ho (.done vm)
  | refused he ht => exact .refused he (hsaid ht)
  | said ho' _ ih => exact .said ho' ih
  | wrote hw _ ih => exact .wrote hw ih
  | flushed hm _ ih =>
    rw [List.append_assoc]
    exact .flushed hm ih
  | returned hf hc hrun _ ih =>
    rw [List.cons_append, List.append_assoc]
    exact .returned hf hc hrun ih
  | failed hf hc hrun ht =>
    rw [List.cons_append, List.append_assoc]
    exact .failed hf hc hrun (hsaid ht)

/-- What stands behind the calls stays as it was when the guest was set up. -/
theorem entry_eq (h : Course vm vs t r vm') : vm'.entry = vm.entry := by
  induction h with
  | done => rfl
  | refused => rfl
  | said _ _ ih => exact ih
  | wrote _ _ ih => exact ih
  | flushed _ _ ih => exact ih
  | returned _ _ _ _ ih => exact ih
  | failed => rfl

/-- A trace shows one call for each visit. -/
theorem calls_eq (h : Course vm vs t r vm') : calls t = vs.map Visit.call := by
  induction h with
  | done => rfl
  | refused _ ht => exact calls_of_fromHost ht
  | @said _ _ _ o t _ ho _ ih =>
    have hone : calls [o] = [] := calls_of_fromHost (by simpa using ho)
    rw [← List.singleton_append, calls_append, hone, ih, List.nil_append]
  | wrote _ _ ih => exact ih
  | @flushed vm _ _ t t' _ m hm _ ih =>
    have hheld := Machine.keeps_flushConsole vm.machine
    rw [hm] at hheld
    have hnone : calls t = [] := calls_of_fromGuest hheld.shown
    rw [calls_append, hnone, ih, List.nil_append]
  | returned _ _ hm _ ih =>
    rw [calls_call, calls_append, calls_of_run hm, ih, List.nil_append, List.map_cons]
  | failed _ _ hm ht =>
    rw [calls_call, calls_append, calls_of_run hm, calls_of_fromHost ht]
    rfl

/-- Each visit finds what the guest has for its call. -/
theorem routine_eq (h : Course vm vs t r vm') :
    ∀ v ∈ vs, vm.entry.routine? v.call = some v.routine := by
  induction h with
  | done => exact nofun
  | refused => exact nofun
  | said _ _ ih => exact ih
  | wrote _ _ ih => exact ih
  | flushed _ _ ih => exact ih
  | returned _ hc _ _ ih => exact List.forall_mem_cons.mpr ⟨hc, ih⟩
  | failed _ hc _ _ => simpa using hc

/-- What is stable holds of the machine at every visit, and in the end. -/
theorem keeps {P : Machine → Prop} (hP : Machine.Stable P) (h : Course vm vs t r vm')
    (hm : P vm.machine) : P vm'.machine ∧ ∀ v ∈ vs, P v.machine := by
  induction h with
  | done => exact ⟨hm, nofun⟩
  | refused => exact ⟨hm, nofun⟩
  | said _ _ ih => exact ih hm
  | wrote _ _ ih => exact ih (hP.memory _ hm)
  | flushed hf _ ih =>
    cases hf
    exact ih (hP.console _ hm)
  | returned _ _ hrun _ ih =>
    obtain ⟨hlast, hall⟩ := ih (hP.run hrun hm)
    exact ⟨hlast, List.forall_mem_cons.mpr ⟨hm, hall⟩⟩
  | failed _ _ hrun _ => exact ⟨hP.run hrun hm, by simpa using hm⟩

/-- The gate is shut when it was shut before, and when a visit has failed. -/
theorem faulted_iff (h : Course vm vs t r vm') :
    vm'.faulted = true ↔ vm.faulted = true ∨ ∃ v ∈ vs, v.Failed := by
  induction h with
  | done => simp
  | refused => simp
  | said _ _ ih => exact ih
  | wrote _ _ ih => exact ih
  | flushed _ _ ih => exact ih
  | returned _ _ hrun _ ih => simpa [Visit.not_failed_of_run hrun] using ih
  | failed _ _ hrun _ => simpa using Or.inr (Visit.failed_of_run hrun)

/-- A shut gate lets no visit pass. -/
theorem visits_of_faulted (h : Course vm vs t r vm') (hf : vm.faulted = true) : vs = [] := by
  induction h with
  | done => rfl
  | refused => rfl
  | said _ _ ih => exact ih hf
  | wrote _ _ ih => exact ih hf
  | flushed _ _ ih => exact ih hf
  | returned hopen _ _ _ _ => exact absurd (hopen.symm.trans hf) Bool.false_ne_true
  | failed hopen _ _ _ => exact absurd (hopen.symm.trans hf) Bool.false_ne_true

end Course

/-- Nothing comes after the visit: no other visit, no change of the machine, and of the host only
what it says. -/
structure Course.EndsIn (v : Visit) (vs : List Visit) (t : List Output) (vm' : Vm) : Prop where
  visits : ∃ earlier, vs = earlier ++ [v]
  machine : vm'.machine = v.outcome.state
  trace : ∃ before notes, t = before ++ .call v.call :: (v.outcome.trace ++ notes) ∧
    ∀ o ∈ notes, o.fromHost = true

namespace Course

variable {vm vm' : Vm} {vs : List Visit} {t : List Output} {r : Except Error Unit}

theorem EndsIn.after {v : Visit} (h : EndsIn v vs t vm') (before : List Visit)
    (t' : List Output) : EndsIn v (before ++ vs) (t' ++ t) vm' where
  visits := by
    obtain ⟨earlier, rfl⟩ := h.visits
    exact ⟨before ++ earlier, by rw [List.append_assoc]⟩
  machine := h.machine
  trace := by
    obtain ⟨t₀, notes, rfl, hnotes⟩ := h.trace
    exact ⟨t' ++ t₀, notes, by rw [List.append_assoc], hnotes⟩

/-- A visit that fails is the last one, and gives the error of the whole. -/
theorem endsIn_of_failed (h : Course vm vs t r vm') {v : Visit} (hv : v ∈ vs) (hfail : v.Failed) :
    EndsIn v vs t vm' ∧
      ∃ stop, v.outcome.result = .error stop ∧ r = .error (stop.error v.call.entry) := by
  induction h with
  | done => cases hv
  | refused => cases hv
  | @said _ _ _ o _ _ _ _ ih => exact ⟨(ih hv).1.after [] [o], (ih hv).2⟩
  | wrote _ _ ih => exact ih hv
  | @flushed _ _ _ t _ _ _ _ _ ih => exact ⟨(ih hv).1.after [] t, (ih hv).2⟩
  | @returned vm _ c routine _ _ t _ _ _ _ hrun _ ih =>
    rcases List.mem_cons.mp hv with rfl | hrest
    · exact absurd hfail (Visit.not_failed_of_run hrun)
    · exact ⟨(ih hrest).1.after [⟨c, routine, vm.machine⟩] (.call c :: t), (ih hrest).2⟩
  | @failed vm c routine stop m t t' _ _ hrun ht =>
    have hout : Visit.outcome ⟨c, routine, vm.machine⟩ = ⟨.error stop, m, t⟩ := hrun
    rw [List.mem_singleton.mp hv]
    refine ⟨⟨⟨[], rfl⟩, by rw [hout], ?_⟩, stop, by rw [hout], rfl⟩
    exact ⟨[], t', by rw [hout]; rfl, ht⟩

/-- Where no visit has failed, an error is the host's own. -/
theorem refuses_of_error {e : Error} (h : Course vm vs t r vm') (hr : r = .error e)
    (hvs : ∀ v ∈ vs, ¬v.Failed) : Refuses vm' e := by
  induction h with
  | done => cases hr
  | refused he _ =>
    cases hr
    exact he
  | said _ _ ih => exact ih hr hvs
  | wrote _ _ ih => exact ih hr hvs
  | flushed _ _ ih => exact ih hr hvs
  | returned _ _ _ _ ih => exact ih hr fun v hv => hvs v (List.mem_cons_of_mem _ hv)
  | failed _ _ hrun _ =>
    exact absurd (Visit.failed_of_run hrun) (hvs _ (List.mem_singleton_self _))

end Course

/-- The host finds the guest's memory, and its entry points are those that it exports. -/
structure Hosts (exports : Guest.Exports) (vm : Vm) : Prop where
  exported : vm.machine.exported = true
  resolves : exports.Resolves vm.entry

theorem Hosts.course {exports : Guest.Exports} {vm vm' : Vm} {vs : List Visit} {t : List Output}
    {r : Except Error Unit} (h : Hosts exports vm) (hvs : Course vm vs t r vm') :
    Hosts exports vm' where
  exported := (hvs.keeps Machine.stable_exported h.exported).1
  resolves := hvs.entry_eq ▸ h.resolves

end Vm

end GuestHost
