import GuestHost.Proofs.Session.Parts
import Mathlib.Tactic.SplitIfs

/-! The mask that a session reports is the mask that its guest was last told. Keys, polls and boots
write the two producers' masks in any order; the last mask forwarded is their union throughout. -/
namespace GuestHost

/-- The mask that the guest knows after this. When a boot begins, it knows of nothing held. -/
def Output.told? : Output → Option UInt8
  | .call (.keyboard mask _) => some mask
  | .note .booting => some 0
  | _ => none

theorem Output.told?_note {n : Notice} (hn : n ≠ .booting) : (Output.note n).told? = none := by
  cases n <;> first | rfl | exact absurd rfl hn

/-- The last mask that the guest was told in the course of `t`, if not `known` before it. -/
def lastTold (known : UInt8) (t : List Output) : UInt8 :=
  (t.filterMap Output.told?).getLastD known

theorem lastTold_append (known : UInt8) (t t' : List Output) :
    lastTold known (t ++ t') = lastTold (lastTold known t) t' := by
  simp only [lastTold, List.filterMap_append, List.getLastD_eq_getLast?, List.getLast?_append]
  cases (t'.filterMap Output.told?).getLast? with
  | none => rfl
  | some mask => rfl

theorem lastTold_of_untold {known : UInt8} {t : List Output} (h : ∀ o ∈ t, o.told? = none) :
    lastTold known t = known := by
  rw [lastTold, List.filterMap_eq_nil_iff.mpr h, List.getLastD_nil]

theorem lastTold_cons_call (known mask code : UInt8) {t : List Output}
    (h : ∀ o ∈ t, o.told? = none) :
    lastTold known (.call (.keyboard mask code) :: t) = mask := by
  have hone : lastTold known [.call (.keyboard mask code)] = mask := rfl
  rw [← List.singleton_append, lastTold_append, hone, lastTold_of_untold h]

namespace Vm

theorem Within.untold {vm vm' : Vm} {t : List Output} (h : Within Session.Maskless vm t vm') :
    ∀ o ∈ t, o.told? = none := by
  intro o ho
  cases o with
  | call c =>
    have hc := h.calls ho
    cases c <;> first | rfl | exact absurd rfl hc
  | note n => exact Output.told?_note fun hn => h.booting (hn ▸ ho)
  | line text => rfl
  | frame f => rfl
  | reply c => rfl

variable {α : Type}

/-- After the call itself its trace tells no mask. -/
theorem trace_invoke (c : Call) (routine : Routine α) (vm : Vm) :
    ∃ t, (invoke c routine vm).trace = .call c :: t ∧ ∀ o ∈ t, o.told? = none := by
  have hshown : ∀ o ∈ (routine.run vm.machine).trace, o.told? = none := by
    intro o ho
    have hg := (routine.keeps_run Machine.held_kept vm.machine).shown o ho
    cases o <;> first | rfl | cases hg
  rcases hrun : routine.run vm.machine with ⟨stop | a, m, t⟩ <;> rw [hrun] at hshown
  · rw [invoke_of_error hrun]
    refine ⟨t ++ [.note (.guestFaulted (stop.error c.entry))], rfl, ?_⟩
    intro o ho
    rcases List.mem_append.mp ho with ho | ho
    · exact hshown o ho
    · rw [List.mem_singleton.mp ho]
      rfl
  · rw [invoke_of_ok hrun]
    exact ⟨t, rfl, hshown⟩

theorem trace_keyboard {vm : Vm} (i : KeyboardInput) (hf : vm.faulted = false)
    (hk : vm.entry.onKeyboard.isSome) :
    ∃ t, (keyboard i vm).trace = .call (.keyboard i.mask i.charCode) :: t ∧
      ∀ o ∈ t, o.told? = none := by
  obtain ⟨f, hfound⟩ := Option.isSome_iff_exists.mp hk
  obtain ⟨t, ht, huntold⟩ := trace_invoke (.keyboard i.mask i.charCode) (f i.mask i.charCode) vm
  refine ⟨t, ?_, huntold⟩
  rw [keyboard, Act.get_bind, hfound, Option.map_some, Act.bind_pure_apply, callIf_some hf,
    Act.map_apply, ht]

end Vm

namespace Arbiter

variable {a : Arbiter} {pads : Gamepads}

@[simp] theorem mask_reset (a : Arbiter) : a.reset.mask = 0 := by
  simp [reset, mask]

/-- Of all that is held and forwarded a new binding changes nothing. -/
theorem connect_same (a : Arbiter) (index : UInt32) (standard : Bool) :
    (a.connect index standard).1.mask = a.mask ∧
      (a.connect index standard).1.lastForwarded = a.lastForwarded := by
  cases standard <;> exact ⟨rfl, rfl⟩

theorem disconnect_same (a : Arbiter) (index : UInt32) :
    (a.disconnect index).mask = a.mask ∧
      (a.disconnect index).lastForwarded = a.lastForwarded := by
  unfold disconnect
  split_ifs <;> exact ⟨rfl, rfl⟩

/-- A poll that is not forwarded leaves the mask at what was forwarded last. -/
theorem poll_of_none (h : (a.poll pads).2 = none) :
    (a.poll pads).1.mask = a.lastForwarded ∧
      (a.poll pads).1.lastForwarded = a.lastForwarded := by
  unfold poll at h ⊢
  dsimp only at h ⊢
  split_ifs at h ⊢ with he
  exact ⟨he, rfl⟩

theorem poll_of_some {i : KeyboardInput} (h : (a.poll pads).2 = some i) :
    i = ⟨(a.poll pads).1.mask, 0⟩ ∧ (a.poll pads).1.lastForwarded = i.mask ∧
      i.mask ≠ a.lastForwarded := by
  unfold poll at h ⊢
  dsimp only at h ⊢
  split_ifs at h ⊢ with he
  cases h
  exact ⟨rfl, rfl, he⟩

end Arbiter

namespace Session

/-- Both the union of the held masks and the mask last forwarded are `known`. -/
structure InStep (s : Session) (known : UInt8) : Prop where
  mask : s.mask = known
  forwarded : s.input.lastForwarded = known

/-- From a session in step with its guest to one that is in step again, unless the guest is lost
to a fault or has no ear for keys. -/
structure Tracked (s : Session) (t : List Output) (s' : Session) : Prop where
  entry : s'.vm.entry = s.vm.entry
  faulted : s.vm.faulted = true → s'.vm.faulted = true
  inStep : s.vm.entry.onKeyboard.isSome → s'.vm.faulted = false →
    ∀ known, InStep s known → InStep s' (lastTold known t)

theorem tracked_law : Act.Law Tracked where
  refl s := ⟨rfl, id, fun _ _ known h => h⟩
  trans h h' := {
    entry := h'.entry.trans h.entry
    faulted := fun hf => h'.faulted (h.faulted hf)
    inStep := fun hk hf known hs => by
      rw [lastTold_append]
      have hmid := Bool.eq_false_iff.mpr (mt h'.faulted (Bool.eq_false_iff.mp hf))
      exact h'.inStep (h.entry ▸ hk) hf _ (h.inStep hk hmid known hs) }

variable {s : Session}

/-- The masks are left alone and nothing is told. -/
theorem tracked_of_untold {s' : Session} {t : List Output} (he : s'.vm.entry = s.vm.entry)
    (hf : s.vm.faulted = true → s'.vm.faulted = true) (hm : s'.mask = s.mask)
    (hl : s'.input.lastForwarded = s.input.lastForwarded) (ht : ∀ o ∈ t, o.told? = none) :
    Tracked s t s' where
  entry := he
  faulted := hf
  inStep _ _ known hs := by
    rw [lastTold_of_untold ht]
    exact ⟨hm.trans hs.mask, hl.trans hs.forwarded⟩

theorem tracked_guest {α : Type} {x : Act Error Vm α} (hx : Act.Keeps (Vm.Within Maskless) x) :
    Act.Keeps Tracked (onVm x) := by
  intro s
  have h := hx s.vm
  exact tracked_of_untold h.entry h.faulted rfl rfl h.untold

/-- Telling the guest a mask brings it in step with input that holds and forwards this mask. -/
theorem tracked_tell (s : Session) {input : Arbiter} {i : KeyboardInput}
    (hm : input.mask = i.mask) (hl : input.lastForwarded = i.mask) :
    Tracked s (onVm (Vm.keyboard i) { s with input }).trace
      (onVm (Vm.keyboard i) { s with input }).state := by
  have h := Vm.Within.keyboard (P := fun _ => True) i trivial s.vm
  refine ⟨h.entry, h.faulted, fun hk hf known _ => ?_⟩
  have hopen : s.vm.faulted = false :=
    Bool.eq_false_iff.mpr (mt h.faulted (Bool.eq_false_iff.mp hf))
  obtain ⟨t, ht, huntold⟩ := Vm.trace_keyboard i hopen hk
  change InStep _ (lastTold known (Vm.keyboard i s.vm).trace)
  rw [ht, lastTold_cons_call _ _ _ huntold]
  exact ⟨hm, hl⟩

theorem tracked_update (pads : Gamepads) : Act.Keeps Tracked (update pads) := by
  intro s
  by_cases h : s.lifecycle = .running
  · have hupdate : Act.Keeps Tracked (onVm Vm.update) := tracked_guest (.update nofun)
    cases hc : (s.input.poll pads).2 with
    | none =>
      rw [update_of_unchanged h hc]
      obtain ⟨hm, hl⟩ := Arbiter.poll_of_none hc
      have hpoll : Tracked s [] { s with input := (s.input.poll pads).1 } :=
        ⟨rfl, id, fun _ _ known hs => ⟨hm.trans hs.forwarded, hl.trans hs.forwarded⟩⟩
      exact tracked_law.trans hpoll (hupdate _)
    | some i =>
      rw [update_of_changed h hc]
      obtain ⟨hi, hl, -⟩ := Arbiter.poll_of_some hc
      have hm : (s.input.poll pads).1.mask = i.mask := by rw [hi]
      exact Act.Keeps.bind_at tracked_law (tracked_tell s hm hl) fun _ => hupdate
  · rw [update_of_not_running h]
    exact tracked_law.refl s

theorem tracked_forwardKey (e : KeyEvent) : Act.Keeps Tracked (forwardKey e) := by
  intro s
  by_cases h : s.lifecycle = .running
  · rw [forwardKey_of_running h]
    exact tracked_tell s rfl rfl
  · rw [forwardKey_of_not_running h]
    exact tracked_law.refl s

theorem tracked_note (s : Session) {n : Notice} (hn : n ≠ .booting) :
    Tracked s [.note n] s := by
  refine tracked_of_untold rfl id rfl rfl fun o ho => ?_
  rw [List.mem_singleton.mp ho]
  exact Output.told?_note hn

theorem tracked_save : Act.Keeps Tracked save := by
  refine .bind tracked_law tracked_law.refl fun _ => ?_
  refine .bind tracked_law (tracked_guest (.take nofun nofun)) fun snapshot => ?_
  refine .bind tracked_law (fun s => tracked_note s nofun) fun _ s => ?_
  exact tracked_of_untold rfl id rfl rfl (by simp [Act.modify])

theorem tracked_parts : Parts Tracked where
  toLaw := tracked_law
  note s _ := tracked_note s
  reply s c := by
    refine tracked_of_untold rfl id rfl rfl fun o ho => ?_
    rw [List.mem_singleton.mp ho]
    rfl
  guest := tracked_guest
  gesture s := by
    refine tracked_of_untold rfl id rfl rfl fun o ho => ?_
    obtain ⟨a, rfl⟩ := exists_note_of_mem_wakeNotes ho
    cases a <;> rfl
  connect index standard s := by
    obtain ⟨hm, hl⟩ := s.input.connect_same index standard
    refine tracked_of_untold rfl id hm hl fun o ho => ?_
    obtain ⟨n, hn, rfl⟩ := List.mem_map.mp ho
    have hb : .booting ∉ connectNotices s.input.boundPad index standard := by
      unfold connectNotices
      cases standard <;> cases s.input.boundPad <;> simp
    exact Output.told?_note fun h => hb (h ▸ hn)
  disconnect index s := by
    obtain ⟨hm, hl⟩ := s.input.disconnect_same index
    refine tracked_of_untold rfl id hm hl fun o ho => ?_
    simp only [disconnect] at ho
    split_ifs at ho
    · rw [List.mem_singleton.mp ho]
      rfl
    · cases ho
  release s := ⟨rfl, id, fun _ _ _ _ => ⟨s.input.mask_reset, rfl⟩⟩
  enter s l := tracked_of_untold rfl id rfl rfl (by simp)
  update := tracked_update
  forwardKey := tracked_forwardKey

theorem Created.inStep (h : s.Created) : InStep s 0 := by
  have hi := h.fresh.1
  constructor
  · simp [Session.mask, hi, Arbiter.mask]
  · rw [hi]

/-- Nothing that is already known is told, and no change of the mask is kept back. -/
def TellsChange (known : UInt8) (s : Session) (o : Outcome Error Session Unit) : Prop :=
  (∀ mask code, .call (.keyboard mask code) ∈ o.trace → mask ≠ known) ∧
    (o.state.mask ≠ s.mask → .call (.keyboard o.state.mask 0) ∈ o.trace)

theorem update_tellsChange {known : UInt8} (hs : InStep s known) (hf : s.vm.faulted = false)
    (hk : s.vm.entry.onKeyboard.isSome) (pads : Gamepads) :
    TellsChange known s (update pads s) := by
  have hquiet : ∀ s' : Session, ∀ {mask code},
      .call (.keyboard mask code) ∉ (onVm Vm.update s').trace :=
    fun s' _ _ h => (Vm.Within.update (P := Maskless) nofun s'.vm).calls h rfl
  by_cases h : s.lifecycle = .running
  · cases hc : (s.input.poll pads).2 with
    | none =>
      rw [update_of_unchanged h hc]
      refine ⟨fun mask code hmem => (hquiet _ hmem).elim, fun hne => (hne ?_).elim⟩
      exact ((Arbiter.poll_of_none hc).1.trans hs.forwarded).trans hs.mask.symm
    | some i =>
      obtain ⟨hi, -, hne⟩ := Arbiter.poll_of_some hc
      obtain ⟨t, ht, -⟩ := Vm.trace_keyboard i hf hk
      have hone := Vm.Within.keyboard (P := (· = .keyboard i.mask i.charCode)) i rfl s.vm
      have hnew : ∀ mask code, .call (.keyboard mask code) ∈ (Vm.keyboard i s.vm).trace →
          mask ≠ known := by
        intro mask code hmem
        cases hone.calls hmem
        exact hs.forwarded ▸ hne
      have htold : .call (.keyboard (s.input.poll pads).1.mask 0) ∈ (Vm.keyboard i s.vm).trace := by
        rw [ht, hi]
        exact List.mem_cons_self
      -- The guest's answer ends the tick or is followed by its update, which tells nothing.
      rw [update_of_changed h hc]
      rcases hr : Vm.keyboard i s.vm with ⟨err | _, vm, t'⟩ <;> rw [hr] at hnew htold
      · rw [Act.bind_of_error (onVm_eq (s := { s with input := (s.input.poll pads).1 }) hr)]
        exact ⟨hnew, fun _ => htold⟩
      · rw [Act.bind_of_ok (onVm_eq (s := { s with input := (s.input.poll pads).1 }) hr)]
        refine ⟨fun mask code hmem => ?_, fun _ => List.mem_append_left _ htold⟩
        exact (List.mem_append.mp hmem).elim (hnew mask code) fun h => (hquiet _ h).elim
  · rw [update_of_not_running h]
    exact ⟨fun _ _ hmem => (List.not_mem_nil hmem).elim, fun hne => (hne rfl).elim⟩

theorem dispatch_tellsChange {known : UInt8} {e : Event} (h : TellsChange known s (perform e s)) :
    TellsChange known s ((Operation.dispatch e).act s) := by
  obtain ⟨hstate, htrace⟩ := dispatch_same e s
  have hcall : ∀ c, .call c ∈ (dispatch e s).trace ↔ .call c ∈ (perform e s).trace := by
    intro c
    rcases htrace with ht | ⟨err, ht⟩ <;> simp [ht]
  rw [act_dispatch]
  simpa only [TellsChange, hstate, hcall] using h

/-- After any run the session reports what its guest was told last, and a tick, dispatched or not,
tells the guest exactly the changes. -/
theorem mask_eq_lastTold (hc : s.Created) (hk : s.vm.entry.onKeyboard.isSome)
    (ops : List Operation) (hf : (performAll ops s).state.vm.faulted = false) :
    (performAll ops s).state.mask = lastTold 0 (performAll ops s).trace ∧
      ∀ pads,
        TellsChange (lastTold 0 (performAll ops s).trace) (performAll ops s).state
          ((Operation.update pads).act (performAll ops s).state) ∧
        TellsChange (lastTold 0 (performAll ops s).trace) (performAll ops s).state
          ((Operation.dispatch (.frame pads)).act (performAll ops s).state) := by
  have hrun := tracked_parts.keeps_performAll tracked_save ops s
  have hs := hrun.inStep hk hf 0 hc.inStep
  have hupdate := update_tellsChange hs hf (hrun.entry ▸ hk)
  exact ⟨hs.mask, fun pads => ⟨hupdate pads, dispatch_tellsChange (hupdate pads)⟩⟩

/-- A button and a key are held. -/
def heldTwice : List Operation := [
  .connect 0 true,
  .update fun index button => index = 0 && button = 0,
  .key ⟨.down, 18, "Alt"⟩]

theorem mask_eq_lastTold_heldTwice :
    (performAll (.boot :: heldTwice) quiet).state.mask = 3 ∧
      lastTold 0 (performAll (.boot :: heldTwice) quiet).trace = 3 := by
  obtain ⟨memory, t, -, hb⟩ := quiet_boot
  have hrun := performAll_cons .boot heldTwice quiet
  rw [show Operation.act .boot quiet = _ from hb] at hrun
  have hm : (performAll (.boot :: heldTwice) quiet).state.mask = 3 := by
    rw [hrun]
    with_unfolding_all rfl
  have hf : (performAll (.boot :: heldTwice) quiet).state.vm.faulted = false := by
    rw [hrun]
    with_unfolding_all rfl
  exact ⟨hm, hm ▸ (mask_eq_lastTold quiet_created rfl (.boot :: heldTwice) hf).1.symm⟩

end Session

end GuestHost
