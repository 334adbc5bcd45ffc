import GuestHost.Proofs.Session.Guards
import Mathlib.Tactic.SplitIfs

/-! Sessions whose guest has faulted. Whatever is done to them, the guest is never asked again and
nothing of it changes. -/
namespace GuestHost

namespace Session

/-- The guest with its memory, console and frame is as it was, and so is the snapshot. Nothing was
printed, shown or called. -/
structure Frozen (s : Session) (t : List Output) (s' : Session) : Prop where
  vm : s'.vm = s.vm
  snapshot : s'.snapshot = s.snapshot
  lifecycle : s'.lifecycle = s.lifecycle ∨ s'.lifecycle = .unbooted
  shown : ∀ o ∈ t, o.fromHost = true

theorem Frozen.law : Act.Law Frozen where
  refl _ := ⟨rfl, rfl, .inl rfl, by simp⟩
  trans h h' := {
    vm := h'.vm.trans h.vm
    snapshot := h'.snapshot.trans h.snapshot
    lifecycle := h'.lifecycle.elim (fun hl => hl ▸ h.lifecycle) .inr
    shown := fun o ho => (List.mem_append.mp ho).elim (h.shown o) (h'.shown o) }

theorem Frozen.note (s : Session) (n : Notice) : Frozen s [.note n] s :=
  ⟨rfl, rfl, .inl rfl, by simp [Output.fromHost]⟩

theorem Frozen.input (s : Session) (input : Arbiter) : Frozen s [] { s with input } :=
  ⟨rfl, rfl, .inl rfl, by simp⟩

/-- The action ends with `r` and leaves all frozen. -/
structure Stalls (s : Session) (x : Act Error Session Unit) (r : Except Error Unit) : Prop where
  result : (x s).result = r
  frozen : Frozen s (x s).trace (x s).state

variable {s : Session}

theorem Stalls.of_eq {x : Act Error Session Unit} {r : Except Error Unit} {s' : Session}
    {t : List Output} (h : x s = ⟨r, s', t⟩) (hf : Frozen s t s') : Stalls s x r := by
  constructor <;> rw [h]
  exact hf

theorem Stalls.congr {x y : Act Error Session Unit} {r : Except Error Unit} (h : y s = x s)
    (hx : Stalls s x r) : Stalls s y r := by
  constructor <;> rw [h]
  · exact hx.result
  · exact hx.frozen

/-- What comes first leaves all frozen and lets the rest go on. -/
theorem Stalls.after {x y : Act Error Session Unit} {r : Except Error Unit} {s' : Session}
    {t : List Output} (h : x s = ⟨.ok (), s', t⟩) (hf : Frozen s t s') (hy : Stalls s' y r) :
    Stalls s (x >>= fun _ => y) r := by
  constructor <;> rw [Act.bind_of_ok h]
  · exact hy.result
  · exact Frozen.law.trans hf hy.frozen

theorem Stalls.afterNote {x : Act Error Session Unit} {r : Except Error Unit} (n : Notice)
    (hx : Stalls s x r) : Stalls s (Act.note n >>= fun _ => x) r :=
  .after rfl (.note s n) hx

theorem frozen_gesture (s : Session) : Frozen s s.wakeNotes s.woken where
  vm := rfl
  snapshot := rfl
  lifecycle := .inl rfl
  shown := fromHost_wakeNotes s

/-- What a faulted session answers when it would have to ask its guest. -/
def refusal (s : Session) : Except Error Unit :=
  .error (if s.lifecycle = .running then .faulted else .notRunning)

theorem refusal_of_running (h : s.lifecycle = .running) : s.refusal = .error .faulted := by
  rw [refusal, if_pos h]

theorem refusal_of_not_running (h : s.lifecycle ≠ .running) : s.refusal = .error .notRunning := by
  rw [refusal, if_neg h]

/-- Without a snapshot a running session need not ask. -/
def restoreRefusal (s : Session) : Except Error Unit :=
  if s.lifecycle = .running ∧ s.snapshot = none then .ok () else s.refusal

def hotkeyRefusal (s : Session) : Hotkey → Except Error Unit
  | .save => s.refusal
  | .restore => s.restoreRefusal
  | .reset => .error .faulted

/-- Behind the check that the session runs, a faulted guest is all that can refuse. -/
theorem Stalls.guarded {x : Act Error Session Unit}
    (hrun : s.lifecycle = .running → Stalls s x (.error .faulted))
    (hidle : s.lifecycle ≠ .running → x s = ⟨.error .notRunning, s, []⟩) :
    Stalls s x s.refusal := by
  by_cases hr : s.lifecycle = .running
  · rw [refusal_of_running hr]
    exact hrun hr
  · rw [refusal_of_not_running hr]
    exact .of_eq (hidle hr) (Frozen.law.refl s)

section Faulted

variable (h : s.vm.faulted = true)
include h

theorem boot_of_faulted :
    boot s = ⟨.error .faulted, { s with lifecycle := .unbooted, input := s.input.reset },
      [.note .booting, .note (.bootFailed .faulted)]⟩ := by
  have hb : bringUp { s with lifecycle := .booting } =
      ⟨.error .faulted, { s with lifecycle := .booting, input := s.input.reset }, []⟩ := by
    rw [bringUp, releaseInput, Act.modify_bind]
    exact Act.bind_of_error (onVm_eq (Vm.init_of_faulted h))
  exact boot_of_error hb

theorem stalls_boot : Stalls s boot (.error .faulted) :=
  .of_eq (boot_of_faulted h) ⟨rfl, rfl, .inr rfl, by simp [Output.fromHost]⟩

theorem stalls_reset : Stalls s reset (.error .faulted) :=
  .afterNote .resetRequested (stalls_boot h)

theorem stalls_update (pads : Gamepads) : Stalls s (update pads) s.refusal := by
  refine .guarded (fun hr => ?_) fun hr => update_of_not_running hr pads
  have hpolled := Frozen.input s (s.input.poll pads).1
  cases hc : (s.input.poll pads).2 with
  | none =>
    exact .of_eq ((update_of_unchanged hr hc).trans (onVm_eq (Vm.update_of_faulted h))) hpolled
  | some i =>
    have htell := onVm_eq (s := { s with input := (s.input.poll pads).1 })
      (Vm.keyboard_of_faulted h i)
    exact .of_eq ((update_of_changed hr hc).trans (Act.bind_of_error htell)) hpolled

theorem stalls_forwardKey (e : KeyEvent) : Stalls s (forwardKey e) s.refusal := by
  refine .guarded (fun hr => ?_) fun hr => forwardKey_of_not_running hr e
  have htell := onVm_eq (s := { s with input := (s.input.keyboard e).1 })
    (Vm.keyboard_of_faulted h (s.input.keyboard e).2)
  exact .of_eq ((forwardKey_of_running hr e).trans htell) (.input s _)

theorem stalls_wheel (delta : Binary64) : Stalls s (wheel delta) s.refusal := by
  refine .guarded (fun hr => ?_) fun hr => wheel_of_not_running hr delta
  have hturn := (wheel_of_running hr delta).trans (onVm_eq (Vm.wheel_of_faulted h delta))
  exact .of_eq hturn (Frozen.law.refl s)

theorem stalls_pointer (e : PointerEvent) (b : Bounds) : Stalls s (pointer e b) s.refusal := by
  have hrest : ∀ s' : Session, s'.vm.faulted = true → Stalls s' (requireRunning >>= fun _ =>
      Act.get >>= fun s => onVm (Vm.pointer (s.input.pointer e b))) s'.refusal := by
    intro s' h'
    refine .guarded (fun hr => ?_) fun hr => Act.bind_of_error (requireRunning_of_not_running hr)
    have hpoint := onVm_eq (Vm.pointer_of_faulted h' (s'.input.pointer e b))
    refine .of_eq ?_ (Frozen.law.refl s')
    exact (Act.bind_of_silent (requireRunning_of_running hr)).trans hpoint
  by_cases hd : e.kind = .down
  · have hafter := Stalls.after (gesture_eq s) (frozen_gesture s) (hrest s.woken h)
    exact .congr (pointer_of_down hd b s) hafter
  · exact .congr (pointer_of_not_down hd b s) (hrest s h)

theorem stalls_save : Stalls s save s.refusal := by
  refine .guarded (fun hr => ?_) save_of_not_running
  have htake : Snapshot.take s.vm = ⟨.error .faulted, s.vm, []⟩ :=
    Act.bind_of_error (Act.bind_of_error (Vm.declaredState_of_faulted h))
  have hsave := (save_of_running hr).trans (Act.bind_of_error (onVm_eq htake))
  exact .of_eq hsave (Frozen.law.refl s)

theorem stalls_restore : Stalls s restore s.restoreRefusal := by
  unfold restoreRefusal
  split_ifs with hn
  · exact .of_eq (restore_of_none hn.1 hn.2) (.note s _)
  · refine .guarded (fun hr => ?_) restore_of_not_running
    obtain ⟨snapshot, hs⟩ := Option.ne_none_iff_exists'.mp fun hs => hn ⟨hr, hs⟩
    have hrestore : snapshot.restore s.vm = ⟨.error .faulted, s.vm, []⟩ :=
      Act.bind_of_error (Act.bind_of_error (Vm.declaredState_of_faulted h))
    have hall := (restore_of_some hr hs).trans (Act.bind_of_error (onVm_eq hrestore))
    exact .of_eq hall (Frozen.law.refl s)

theorem pullChunk_of_faulted (hr : s.lifecycle = .running) (chunk : Chunk) :
    pullChunk (s, chunk) = ⟨.error .faulted, (s, chunk.resize s.chunkFrames), []⟩ :=
  pullChunk_eq hr (Vm.pullChunk_of_error s.chunkFrames chunk (Vm.samplesAddress_of_faulted h))

theorem stalls_pull (chunk : Chunk) :
    Stalls s (pull chunk) (if s.lifecycle = .running then .error .faulted else .ok ()) := by
  by_cases hr : s.lifecycle = .running
  · rw [if_pos hr]
    refine .of_eq ?_ (Frozen.law.refl s)
    simp only [pull, pullChunk_of_faulted h hr]
  · rw [if_neg hr]
    refine .of_eq ?_ (Frozen.law.refl s)
    simp only [pull, pullChunk_of_not_running hr]

theorem stalls_answerPull (chunk : Chunk) (live : Bool) :
    Stalls s (answerPull chunk live)
      (if s.lifecycle = .running then .error .faulted else .ok ()) := by
  by_cases hr : s.lifecycle = .running
  · rw [if_pos hr]
    exact .of_eq (answerPull_of_error live (pullChunk_of_faulted h hr chunk)) (Frozen.law.refl s)
  · rw [if_neg hr]
    have ha := answerPull_of_ok live (pullChunk_of_not_running hr chunk)
    refine .of_eq ha ⟨rfl, rfl, .inl rfl, fun o ho => ?_⟩
    rw [List.mem_singleton.mp ho]
    cases live <;> rfl

theorem stalls_obey (k : Hotkey) : Stalls s (obey k) (s.hotkeyRefusal k) := by
  refine .afterNote (.hotkey k) ?_
  cases k with
  | save => exact stalls_save h
  | restore => exact stalls_restore h
  | reset => exact stalls_reset h

theorem stalls_keyboard_down {e : KeyEvent} (he : e.state = .down) :
    Stalls s (keyboard e) ((s.config.hotkeys.find? e.code).elim s.refusal s.hotkeyRefusal) := by
  refine .congr (keyboard_of_down he s) (.after (gesture_eq s) (frozen_gesture s) ?_)
  cases s.config.hotkeys.find? e.code with
  | none => exact stalls_forwardKey (s := s.woken) h e
  | some k => exact stalls_obey (s := s.woken) h k

theorem stalls_keyboard_up {e : KeyEvent} (he : e.state = .up) :
    Stalls s (keyboard e) ((s.config.hotkeys.find? e.code).elim s.refusal fun _ => .ok ()) := by
  refine .congr (keyboard_of_up he s) ?_
  cases s.config.hotkeys.find? e.code with
  | none => exact stalls_forwardKey h e
  | some k => exact .of_eq rfl (Frozen.law.refl s)

end Faulted

theorem stalls_connect (s : Session) (index : UInt32) (standard : Bool) :
    Stalls s (do let _ ← connect index standard) (.ok ()) := by
  refine .of_eq (Act.bind_pure_apply (connect index standard) (fun _ => ()) s) ?_
  refine ⟨rfl, rfl, .inl rfl, fun o ho => ?_⟩
  obtain ⟨n, -, rfl⟩ := List.mem_map.mp ho
  rfl

theorem stalls_disconnect (s : Session) (index : UInt32) :
    Stalls s (disconnect index) (.ok ()) := by
  refine .of_eq rfl ⟨rfl, rfl, .inl rfl, fun o ho => ?_⟩
  split_ifs at ho
  · rw [List.mem_singleton.mp ho]
    rfl
  · cases ho

/-- Whether an event makes a running session turn to its guest. -/
def asksGuest (s : Session) : Event → Bool
  | .restore => s.snapshot.isSome
  | .key e => match s.config.hotkeys.find? e.code, e.state with
    | none, _ => true
    | some .restore, .down => s.snapshot.isSome
    | some _, .down => true
    | some _, .up => false
  | .contextMenu => false
  | .padConnected .. => false
  | .padDisconnected _ => false
  | .frame _ => true
  | .pointer .. => true
  | .wheel _ => true
  | .audioPull .. => true
  | .save => true
  | .reset => true

/-- Whether an event resets a session, as it does in every state. -/
def asksReset (s : Session) : Event → Bool
  | .reset => true
  | .key e => e.state = .down && s.config.hotkeys.find? e.code = some .reset
  | _ => false

/-- Of a faulted session only what need not ask the guest gets an answer. -/
def answer (s : Session) (e : Event) : Except Error Disposition :=
  if (if s.lifecycle = .running then s.asksGuest e else s.asksReset e) then .error .faulted
  else .ok e.disposition

theorem settled_refusal {e : Event} (ha : s.asksGuest e = true) (hr : s.asksReset e = false) :
    settled e s.refusal = s.answer e := by
  unfold refusal answer
  rw [ha, hr]
  split_ifs <;> first | rfl | contradiction

theorem settled_restoreRefusal {e : Event} (ha : s.asksGuest e = s.snapshot.isSome)
    (hr : s.asksReset e = false) : settled e s.restoreRefusal = s.answer e := by
  unfold restoreRefusal
  cases hs : s.snapshot with
  | none =>
    rw [answer, ha, hr, hs]
    by_cases hl : s.lifecycle = .running
    · rw [if_pos ⟨hl, rfl⟩, if_pos hl]
      rfl
    · rw [if_neg (fun h => hl h.1), if_neg hl, refusal_of_not_running hl]
      rfl
  | some snapshot =>
    rw [if_neg (by simp)]
    exact settled_refusal (by rw [ha, hs]; rfl) hr

theorem answer_of_asksReset {e : Event} (ha : s.asksGuest e = true) (hr : s.asksReset e = true) :
    s.answer e = .error .faulted := by
  rw [answer, ha, hr]
  split_ifs <;> first | rfl | contradiction

theorem answer_of_neither {e : Event} (ha : s.asksGuest e = false) (hr : s.asksReset e = false) :
    s.answer e = .ok e.disposition := by
  rw [answer, ha, hr]
  split_ifs <;> first | rfl | contradiction

theorem stalls_keyEvent (h : s.vm.faulted = true) (e : KeyEvent) :
    ∃ r, Stalls s (keyboard e) r ∧ settled (.key e) r = s.answer (.key e) := by
  cases he : e.state with
  | up =>
    refine ⟨_, stalls_keyboard_up h he, ?_⟩
    have hr : s.asksReset (.key e) = false := by simp [asksReset, he]
    cases hk : s.config.hotkeys.find? e.code with
    | none => exact settled_refusal (by simp [asksGuest, hk]) hr
    | some k => exact (answer_of_neither (by simp [asksGuest, hk, he]) hr).symm
  | down =>
    refine ⟨_, stalls_keyboard_down h he, ?_⟩
    cases hk : s.config.hotkeys.find? e.code with
    | none => exact settled_refusal (by simp [asksGuest, hk]) (by simp [asksReset, hk])
    | some k =>
      cases k with
      | save => exact settled_refusal (by simp [asksGuest, hk, he]) (by simp [asksReset, hk])
      | restore =>
        exact settled_restoreRefusal (by simp [asksGuest, hk, he]) (by simp [asksReset, hk])
      | reset =>
        exact (answer_of_asksReset (by simp [asksGuest, hk, he]) (by simp [asksReset, hk, he])).symm

theorem stalls_perform (h : s.vm.faulted = true) (e : Event) :
    ∃ r, Stalls s (perform e) r ∧ settled e r = s.answer e := by
  cases e with
  | frame pads => exact ⟨_, stalls_update h pads, settled_refusal rfl rfl⟩
  | pointer e b => exact ⟨_, stalls_pointer h e b, settled_refusal rfl rfl⟩
  | wheel delta => exact ⟨_, stalls_wheel h delta, settled_refusal rfl rfl⟩
  | key e => exact stalls_keyEvent h e
  | contextMenu => exact ⟨_, .of_eq rfl (Frozen.law.refl s), (answer_of_neither rfl rfl).symm⟩
  | padConnected index standard =>
    exact ⟨_, stalls_connect s index standard, (answer_of_neither rfl rfl).symm⟩
  | padDisconnected index =>
    exact ⟨_, stalls_disconnect s index, (answer_of_neither rfl rfl).symm⟩
  | audioPull chunk live =>
    refine ⟨_, stalls_answerPull h chunk live, ?_⟩
    unfold answer
    split_ifs <;> first | rfl | contradiction
  | save => exact ⟨_, stalls_save h, settled_refusal rfl rfl⟩
  | restore => exact ⟨_, stalls_restore h, settled_restoreRefusal rfl rfl⟩
  | reset => exact ⟨_, stalls_reset h, (answer_of_asksReset rfl rfl).symm⟩

theorem dispatch_of_faulted (h : s.vm.faulted = true) (e : Event) :
    (dispatch e s).result = s.answer e ∧ Frozen s (dispatch e s).trace (dispatch e s).state := by
  obtain ⟨r, hs, hr⟩ := stalls_perform h e
  obtain ⟨hstate, htrace⟩ := dispatch_same e s
  refine ⟨by rw [result_dispatch, hs.result, hr], ?_⟩
  rw [hstate]
  rcases htrace with ht | ⟨err, ht⟩ <;> rw [ht]
  · exact hs.frozen
  · exact Frozen.law.trans hs.frozen (.note _ _)

theorem frozen_act (h : s.vm.faulted = true) {op : Operation}
    (hop : ∀ addr bytes, op ≠ .poke addr bytes) :
    Frozen s (op.act s).trace (op.act s).state := by
  cases op with
  | boot => exact (stalls_boot h).frozen
  | reset => exact (stalls_reset h).frozen
  | update pads => exact (stalls_update h pads).frozen
  | pointer e b => exact (stalls_pointer h e b).frozen
  | wheel delta => exact (stalls_wheel h delta).frozen
  | key e =>
    obtain ⟨r, hs, -⟩ := stalls_keyEvent h e
    exact hs.frozen
  | connect index standard => exact (stalls_connect s index standard).frozen
  | disconnect index => exact (stalls_disconnect s index).frozen
  | save => exact (stalls_save h).frozen
  | restore => exact (stalls_restore h).frozen
  | pull chunk => exact (stalls_pull h chunk).frozen
  | dispatch e =>
    rw [act_dispatch]
    exact (dispatch_of_faulted h e).2
  | poke addr bytes => exact absurd rfl (hop addr bytes)

theorem frozen_performAll (h : s.vm.faulted = true) {ops : List Operation}
    (hops : ∀ addr bytes, .poke addr bytes ∉ ops) :
    Frozen s (performAll ops s).trace (performAll ops s).state := by
  induction ops generalizing s with
  | nil => exact Frozen.law.refl s
  | cons op rest ih =>
    have hop : ∀ addr bytes, op ≠ .poke addr bytes := by
      rintro addr bytes rfl
      exact hops addr bytes List.mem_cons_self
    have hstep := frozen_act h hop
    have hrest := ih (s := (op.act s).state) (by rw [hstep.vm, h])
      fun addr bytes hmem => hops addr bytes (List.mem_cons_of_mem op hmem)
    rw [performAll_cons]
    exact Frozen.law.trans hstep hrest

/-- A fault is for good: without writes from outside all that belongs to the guest stays as it was
at the fault, and events get the answers of a guest that is not asked. -/
theorem faulted_forever (h : s.vm.faulted = true) {ops : List Operation}
    (hops : ∀ addr bytes, .poke addr bytes ∉ ops) :
    (performAll ops s).state.vm.faulted = true ∧
      Frozen s (performAll ops s).trace (performAll ops s).state ∧
      ∀ e, (dispatch e (performAll ops s).state).result = (performAll ops s).state.answer e := by
  have hf := frozen_performAll h hops
  have hfaulted : (performAll ops s).state.vm.faulted = true := by rw [hf.vm, h]
  exact ⟨hfaulted, hf, fun e => (dispatch_of_faulted hfaulted e).1⟩

/-- A fault while the session runs; a snapshot has not been taken. -/
def quietFaulted : Session :=
  { quiet with lifecycle := .running, vm := { quiet.vm with faulted := true } }

theorem faulted_forever_quiet :
    (dispatch .restore (performAll [.save, .update .none] quietFaulted).state).result =
        .ok .default ∧
      (dispatch (.wheel ⟨0⟩) (performAll [.save, .reset] quietFaulted).state).result =
        .ok .preventDefault ∧
      (dispatch .reset (performAll [.save, .reset] quietFaulted).state).result = .error .faulted :=
  ⟨(faulted_forever rfl (by simp)).2.2 .restore, (faulted_forever rfl (by simp)).2.2 (.wheel ⟨0⟩),
    (faulted_forever rfl (by simp)).2.2 .reset⟩

end Session

end GuestHost
