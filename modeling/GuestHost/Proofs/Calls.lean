import GuestHost.Proofs.Snapshot

/-! The calls that each use of a guest makes, as long as the guest does not fault: those that it
offers, in a fixed order. -/
namespace GuestHost.Vm

variable {α β : Type} {vm : Vm} {c : Call} {cs cs' : List Call}

/-- The action fails and leaves the gate shut. -/
def Shuts (x : Act Error Vm α) (vm : Vm) : Prop :=
  ∃ e vm' t, x vm = ⟨.error e, vm', t⟩ ∧ vm'.faulted = true

theorem Shuts.bind {x : Act Error Vm α} {f : α → Act Error Vm β} (h : Shuts x vm) :
    Shuts (x >>= f) vm := by
  obtain ⟨e, vm', t, hx, hshut⟩ := h
  exact ⟨e, vm', t, Act.bind_of_error hx, hshut⟩

/-- The action makes these calls and they are answered, or it shuts the gate. -/
def Asks (x : Act Error Vm α) (vm : Vm) (cs : List Call) : Prop :=
  (∃ a m, x.Makes vm cs (.ok a) { vm with machine := m }) ∨ Shuts x vm

namespace Asks

theorem bind {x : Act Error Vm α} {f : α → Act Error Vm β} (hx : Asks x vm cs)
    (hf : ∀ a m, Asks (f a) { vm with machine := m } cs') : Asks (x >>= f) vm (cs ++ cs') := by
  rcases hx with ⟨a, m, hx⟩ | hshut
  · rcases hf a m with ⟨b, m', hb⟩ | ⟨e, vm', t', hb, hshut⟩
    · exact .inl ⟨b, m', hx.bind hb⟩
    · obtain ⟨t, ht, -⟩ := hx
      exact .inr ⟨e, vm', t ++ t', by rw [Act.bind_of_ok ht, hb], hshut⟩
  · exact .inr hshut.bind

theorem bind_pure {x : Act Error Vm α} (f : α → β) (hx : Asks x vm cs) :
    Asks (x >>= fun a => pure (f a)) vm cs := by
  rcases hx with ⟨a, m, hx⟩ | hshut
  · exact .inl ⟨f a, m, hx.bind_pure f⟩
  · exact .inr hshut.bind

theorem congr {x y : Act Error Vm α} (h : y vm = x vm) (hx : Asks x vm cs) : Asks y vm cs := by
  rcases hx with ⟨a, m, hx⟩ | ⟨e, vm', t, hx, hshut⟩
  · exact .inl ⟨a, m, hx.congr h⟩
  · exact .inr ⟨e, vm', t, h.trans hx, hshut⟩

theorem invoke (c : Call) (routine : Routine α) (vm : Vm) : Asks (invoke c routine) vm [c] := by
  rcases hrun : routine.run vm.machine with ⟨stop | a, m, t⟩
  · exact .inr ⟨_, _, _, invoke_of_error hrun, rfl⟩
  · exact .inl ⟨a, m, _, invoke_of_ok hrun, by rw [calls_call, calls_of_run hrun]⟩

theorem call (c : Call) (routine : Routine α) (vm : Vm) : Asks (call c routine) vm [c] := by
  by_cases hf : vm.faulted = true
  · exact .inr ⟨_, vm, [], call_of_faulted hf, hf⟩
  · exact .congr (call_of_not_faulted (Bool.eq_false_iff.mpr hf)) (invoke c routine vm)

/-- Of an entry point that may be missing only an existing one is called. -/
theorem callIf {found : Option (Call × Routine α)} (hcs : (found.map Prod.fst).toList = cs)
    (vm : Vm) : Asks (callIf found) vm cs := by
  subst hcs
  by_cases hf : vm.faulted = true
  · exact .inr ⟨_, vm, [], callIf_of_faulted hf, hf⟩
  · have hopen := Bool.eq_false_iff.mpr hf
    cases found with
    | none => exact .inl ⟨none, vm.machine, .of_eq (callIf_none hopen)⟩
    | some p => exact .congr (callIf_some hopen) ((invoke p.1 p.2 vm).bind_pure some)

section Offers

variable {g : Guest.Entrypoints}

/-- A call that is made where its code is found is a call that the guest offers. -/
theorem toList_eq_filter {found : Option β} {f : β → Call × Routine α} (hf : ∀ b, (f b).1 = c)
    (ho : g.offers c = found.isSome) :
    ((found.map f).map Prod.fst).toList = [c].filter g.offers := by
  cases found with
  | none => simp [ho]
  | some b => simp [ho, hf]

/-- A wheel takes one of two calls. -/
theorem wheel_toList_eq_filter (delta : Binary64) :
    ((g.onWheel.map (wheelCall delta)).map Prod.fst).toList =
      [.wheelFloat delta, .wheelInt delta.toInt32].filter g.offers := by
  cases hw : g.onWheel with
  | none => simp [Guest.Entrypoints.offers, Guest.Entrypoints.routine?, hw]
  | some w =>
    cases w <;>
      simp [Guest.Entrypoints.offers, Guest.Entrypoints.routine?, hw, Guest.Wheel.routine?,
        wheelCall]

end Offers

theorem init (vm : Vm) : Asks init vm [.init] :=
  call .init vm.entry.init vm

theorem romAddress (vm : Vm) : Asks romAddress vm [.romPtr] :=
  call .romPtr vm.entry.romPtr vm

theorem update (vm : Vm) : Asks update vm [.update] :=
  call .update vm.entry.onUpdate vm

theorem runMain (vm : Vm) : Asks runMain vm ([.runMain].filter vm.entry.offers) := by
  have hcs : ((vm.entry.runMain.map (Call.runMain, ·)).map Prod.fst).toList =
      [.runMain].filter vm.entry.offers := toList_eq_filter (fun _ => rfl) rfl
  exact (callIf hcs vm).bind_pure Option.isSome

theorem pointer (i : PointerInput) (vm : Vm) :
    Asks (pointer i) vm ([.pointer i.x i.y i.buttons].filter vm.entry.offers) := by
  have hcs : ((vm.entry.onPointer.map fun f =>
      (Call.pointer i.x i.y i.buttons, f i.x i.y i.buttons)).map Prod.fst).toList =
      [.pointer i.x i.y i.buttons].filter vm.entry.offers :=
    toList_eq_filter (fun _ => rfl) Option.isSome_map
  exact (callIf hcs vm).bind_pure fun _ => ()

theorem keyboard (i : KeyboardInput) (vm : Vm) :
    Asks (keyboard i) vm ([.keyboard i.mask i.charCode].filter vm.entry.offers) := by
  have hcs : ((vm.entry.onKeyboard.map fun f =>
      (Call.keyboard i.mask i.charCode, f i.mask i.charCode)).map Prod.fst).toList =
      [.keyboard i.mask i.charCode].filter vm.entry.offers :=
    toList_eq_filter (fun _ => rfl) Option.isSome_map
  exact (callIf hcs vm).bind_pure fun _ => ()

theorem wheel (delta : Binary64) (vm : Vm) : Asks (wheel delta) vm
    ([.wheelFloat delta, .wheelInt delta.toInt32].filter vm.entry.offers) :=
  (callIf (wheel_toList_eq_filter delta) vm).bind_pure fun _ => ()

theorem samplesAddress (vm : Vm) :
    Asks samplesAddress vm ([.audioSamples].filter vm.entry.offers) := by
  have hcs : ((vm.entry.audioSamples.map (Call.audioSamples, ·)).map Prod.fst).toList =
      [.audioSamples].filter vm.entry.offers := toList_eq_filter (fun _ => rfl) Option.isSome_map
  exact callIf hcs vm

theorem declaredState (vm : Vm) :
    Asks declaredState vm ([.statePtr, .stateSize].filter vm.entry.offers) := by
  have hptr : ((vm.entry.statePtr.map (Call.statePtr, ·)).map Prod.fst).toList =
      [.statePtr].filter vm.entry.offers := toList_eq_filter (fun _ => rfl) Option.isSome_map
  have hsize : ((vm.entry.stateSize.map (Call.stateSize, ·)).map Prod.fst).toList =
      [.stateSize].filter vm.entry.offers := toList_eq_filter (fun _ => rfl) Option.isSome_map
  have hboth : [Call.statePtr, .stateSize].filter vm.entry.offers =
      [Call.statePtr].filter vm.entry.offers ++ [Call.stateSize].filter vm.entry.offers :=
    List.filter_append [Call.statePtr] [Call.stateSize]
  rw [hboth]
  exact (callIf hptr vm).bind fun ptr m => (callIf hsize { vm with machine := m }).bind_pure _

end Asks

/-! A snapshot is taken and restored where the guest says that its state lies. -/

section Snapshot

/-- Whether the memory has the state that the guest declares. -/
def stateFits (vm : Vm) : Bool :=
  match declaredState vm with
  | ⟨.ok (some (ptr, size)), vm, _⟩ => ptr.toNat + size.toNat ≤ vm.memory.size
  | _ => false

theorem makes_region {found : Option (UInt32 × UInt32)} {vm' : Vm}
    (h : declaredState.Makes vm cs (.ok found) vm') :
    Snapshot.region.Makes vm cs
      (found.elim (.error (.unsupported Entry.getStatePtr.name)) .ok) vm' := by
  rw [← List.append_nil cs]
  cases found with
  | none => exact h.bind ⟨[], rfl, rfl⟩
  | some r => exact h.bind ⟨[], rfl, rfl⟩

/-- Behind the write there are only notes. -/
theorem makes_restore {snapshot : Snapshot} {ptr size : UInt32} {vm₁ vm' : Vm}
    {r : Except Error Unit} (h : Snapshot.region.Makes vm cs (.ok (ptr, size)) vm₁)
    (hw : (write ptr snapshot.bytes).Makes vm₁ [] r vm') :
    snapshot.restore.Makes vm cs r vm' := by
  have hput := hw.note (.regionRestored snapshot.size ptr)
  rw [← List.append_nil cs]
  refine h.bind ?_
  dsimp only
  by_cases hs : snapshot.size ≠ size.toNat
  · rw [if_pos hs]
    exact .after ⟨_, rfl, rfl⟩ hput
  · rw [if_neg hs]
    exact hput

end Snapshot

end GuestHost.Vm
