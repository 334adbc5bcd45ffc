import GuestHost.Proofs.Dealing
import GuestHost.Proofs.Session.Course
import GuestHost.Proofs.Session.Idle
import GuestHost.Proofs.Session.Told

/-! The lifecycle of a session: what its last boot has left, whatever else is done to it. Held input
does not survive a boot, nor does a session that has failed to boot hold any. -/
namespace GuestHost

def Lifecycle.afterBoot : Except Error Unit → Lifecycle
  | .ok () => .running
  | .error _ => .unbooted

/-- The event that the operation amounts to; writes from outside are no events. -/
def Operation.event? : Operation → Option Event
  | .boot => some .reset
  | .reset => some .reset
  | .update pads => some (.frame pads)
  | .pointer e b => some (.pointer e b)
  | .wheel delta => some (.wheel delta)
  | .key e => some (.key e)
  | .connect index standard => some (.padConnected index standard)
  | .disconnect index => some (.padDisconnected index)
  | .save => some .save
  | .restore => some .restore
  | .pull chunk => some (.audioPull chunk false)
  | .dispatch e => some e
  | .poke _ _ => none

theorem Operation.event_or_poke (op : Operation) :
    (∃ e, op.event? = some e) ∨ ∃ addr bytes, op = .poke addr bytes := by
  cases op <;> simp [event?]

theorem Operation.request_of_event {op : Operation} {e : Event} (h : op.event? = some e)
    (hotkeys : Config.Hotkeys) : op.request hotkeys = e.request hotkeys := by
  cases op <;> cases h <;> rfl

namespace Session

variable {s s' : Session} {t : List Output} {r : Except Error Unit}

/-- Dealings with the guest, of which the rest of the session sees nothing. -/
def Deals (s : Session) (t : List Output) (r : Except Error Unit) (s' : Session) : Prop :=
  (∃ vm, s' = { s with vm }) ∧ Vm.Ends Error.Grave s.vm t r s'.vm

theorem deals_flow : Act.Flow Deals where
  refl s := ⟨⟨s.vm, rfl⟩, Vm.Ends.flow.refl s.vm⟩
  trans h h' := by
    obtain ⟨⟨vm, rfl⟩, hends⟩ := h
    obtain ⟨⟨vm', rfl⟩, hends'⟩ := h'
    exact ⟨⟨vm', rfl⟩, Vm.Ends.flow.trans hends hends'⟩

/-- A boot deals with the guest once the input is released. -/
theorem deals_bringUp (s : Session) :
    Deals { s with input := s.input.reset } (bringUp s).trace (bringUp s).result
      (bringUp s).state := by
  refine follows_bringUp deals_flow ?_ ?_ s
  · exact fun n s => ⟨⟨s.vm, rfl⟩, nofun⟩
  · exact fun hx s => ⟨⟨_, rfl⟩, .of_leads .inl id (hx _ s.vm)⟩

/-- What is left of a session when a boot is over. -/
structure Booted (s : Session) (r : Except Error Unit) (s' : Session) : Prop where
  lifecycle : s'.lifecycle = .afterBoot r
  input : s'.input = s.input.reset
  dealt : ∀ e, r = .error e → e.Grave

theorem booted_boot (s : Session) : Booted s (boot s).result (boot s).state := by
  have hb := deals_bringUp { s with lifecycle := .booting }
  rcases hr : bringUp { s with lifecycle := .booting } with ⟨e | _, s', t⟩ <;> rw [hr] at hb <;>
    obtain ⟨⟨vm, rfl⟩, hends⟩ := hb
  · rw [boot_of_error hr]
    exact ⟨rfl, rfl, hends⟩
  · rw [boot_of_ok hr]
    exact ⟨rfl, rfl, nofun⟩

/-- What a hotkey asks for is asked for by an event of its own, or by the key. A key wakes the
device first. -/
theorem perform_of_request {k : Hotkey} {e : Event}
    (he : e.request s.config.hotkeys = k.request) :
    ∃ s₀ t, (s₀ = s ∨ s₀ = s.woken) ∧ (∀ o ∈ t, o.fromHost = true) ∧
      perform e s = ⟨(perform k.event s₀).result, (perform k.event s₀).state,
        t ++ (perform k.event s₀).trace⟩ := by
  cases e with
  | key e =>
    simp only [Event.request, KeyEvent.request] at he
    cases hk : s.config.hotkeys.find? e.code with
    | none =>
      rw [hk] at he
      cases k <;> cases he
    | some k' =>
      cases hd : e.state with
      | up =>
        rw [hk, hd] at he
        cases k <;> cases he
      | down =>
        rw [hk, hd] at he
        cases Hotkey.request_inj he
        have hsaid : ∀ o ∈ s.wakeNotes ++ [.note (.hotkey k)], o.fromHost = true :=
          List.forall_mem_append.mpr ⟨fromHost_wakeNotes s, List.forall_mem_singleton.mpr rfl⟩
        refine ⟨s.woken, _, .inr rfl, hsaid, ?_⟩
        rw [perform, keyboard_of_down hd, Act.bind_of_ok (gesture_eq s), hk, List.append_assoc]
        simp only [obey_eq, Act.note_bind, List.singleton_append]
  | save | restore | reset =>
    cases k <;> cases he
    exact ⟨s, [], .inl rfl, List.forall_mem_nil _, rfl⟩
  | _ => cases k <;> cases he

/-- The only events that boot are resets, asked for by a key or not. -/
theorem perform_of_boots {e : Event} (he : (e.request s.config.hotkeys).boots = true) :
    ∃ s₀, (perform e s).result = (boot s₀).result ∧ (perform e s).state = (boot s₀).state := by
  have hstart : e.request s.config.hotkeys = Hotkey.reset.request := Request.eq_start_of_boots he
  obtain ⟨s₀, t, -, -, h⟩ := perform_of_request hstart
  rw [h]
  exact ⟨s₀, rfl, rfl⟩

/-- A session that runs goes on running, and fails only for what happens with its guest. -/
def Stays (s : Session) (t : List Output) (r : Except Error Unit) (s' : Session) : Prop :=
  s.lifecycle = .running → s'.lifecycle = .running ∧ Vm.Ends Error.Dealing s.vm t r s'.vm

theorem stays_onVm {α : Type} {x : Act Error Vm α}
    (hx : ∀ g, Act.Follows (Vm.LeadsBy Error.Dealing g) x) : Act.Follows Stays (onVm x) :=
  fun s hs => ⟨hs, .of_leads id .inl (hx _ s.vm)⟩

theorem stays_rules : Rules Stays where
  refl s hs := ⟨hs, Vm.Ends.flow.refl s.vm⟩
  trans h h' hs := by
    obtain ⟨hs', hends⟩ := h hs
    obtain ⟨hs'', hends'⟩ := h' hs'
    exact ⟨hs'', Vm.Ends.flow.trans hends hends'⟩
  aside _ hlife _ hs := ⟨hlife.trans hs, nofun⟩
  guard s hs := by
    rw [requireRunning_of_running hs]
    exact ⟨hs, Vm.Ends.flow.refl s.vm⟩
  guest hx := stays_onVm fun _ => hx (Vm.LeadsBy.uses Error.Integration.dealing)

/-- Whatever is asked of it, short of a boot. -/
theorem stays_perform {e : Event} (he : (e.request s.config.hotkeys).boots = false) :
    Stays s (perform e s).trace (perform e s).result (perform e s).state :=
  stays_rules.perform (fun hboots => absurd (he.symm.trans hboots) Bool.false_ne_true) fun _ =>
    stays_rules.restore fun snapshot => stays_onVm fun _ =>
      .restore Error.Integration.dealing (.inr rfl) snapshot

/-- An operation does what its event does, and says of it what its caller hears. -/
theorem act_of_event {op : Operation} {e : Event} (h : op.event? = some e) (s : Session) :
    (op.act s).state = (perform e s).state ∧ (op.act s).result = op.heard (perform e s).result := by
  cases op with
  | dispatch e' =>
    cases h
    rw [act_dispatch, result_dispatch, (dispatch_same e s).1]
    exact ⟨rfl, rfl⟩
  | poke addr bytes => cases h
  | _ =>
    cases h
    exact ⟨rfl, rfl⟩

/-- What else it has to say of the event makes no calls. -/
theorem calls_of_event {op : Operation} {e : Event} (h : op.event? = some e) (s : Session) :
    calls (op.act s).trace = calls (perform e s).trace := by
  cases op with
  | dispatch e' =>
    cases h
    rw [act_dispatch]
    obtain ⟨-, ht | ⟨err, ht⟩⟩ := dispatch_same e s <;> rw [ht]
    exact (calls_append _ _).trans (List.append_nil _)
  | pull chunk =>
    cases h
    rcases hp : pullChunk (s, chunk) with ⟨err | _, ⟨s', c⟩, t⟩ <;>
      simp only [Operation.act, Session.pull, perform, hp]
    · rw [answerPull_of_error false hp]
    · rw [answerPull_of_ok false hp]
      exact ((calls_append t _).trans (List.append_nil _)).symm
  | poke addr bytes => cases h
  | _ =>
    cases h
    rfl

/-- Sessions are not left while they boot, and hold nothing until they run. -/
structure Settled (s : Session) : Prop where
  lifecycle : s.lifecycle ≠ .booting
  mask : s.lifecycle = .unbooted → s.mask = 0

/-- What an operation does to the lifecycle, and how it depends on it: a boot moves it to where its
own outcome belongs and releases the input, all else leaves it. -/
structure Governed (s : Session) (op : Operation) : Prop where
  booted : (op.request s.config.hotkeys).boots = true →
    (op.act s).state.lifecycle = .afterBoot (op.act s).result ∧ (op.act s).state.mask = 0
  kept : (op.request s.config.hotkeys).boots = false → (op.act s).state.lifecycle = s.lifecycle
  refused : (op.request s.config.hotkeys).guarded = true → (∀ e, op ≠ .dispatch e) →
    ((op.act s).result = .error .notRunning ↔ s.lifecycle = .unbooted)

theorem booted_act {op : Operation} (hop : (op.request s.config.hotkeys).boots = true) :
    (op.act s).state.lifecycle = .afterBoot (op.act s).result ∧ (op.act s).state.mask = 0 := by
  rcases op.event_or_poke with ⟨e, he⟩ | ⟨addr, bytes, rfl⟩
  · rw [Operation.request_of_event he] at hop
    obtain ⟨hstate, hresult⟩ := act_of_event he s
    obtain ⟨s₀, hr, hs'⟩ := perform_of_boots hop
    have hboot := booted_boot s₀
    -- Whatever a boot fails with is fatal, so that the caller hears of it.
    have hheard : op.heard (boot s₀).result = (boot s₀).result := by
      cases hb : (boot s₀).result with
      | ok a => cases op <;> rfl
      | error err => exact Operation.heard_of_fatal (hboot.dealt err hb).isFatal op
    rw [hstate, hresult, hr, hs', hheard, mask, hboot.input]
    exact ⟨hboot.lifecycle, Arbiter.mask_reset _⟩
  · cases hop

/-- A session that does not run keeps its mask, too. -/
theorem kept_act {op : Operation} (hop : (op.request s.config.hotkeys).boots = false) :
    (op.act s).state.lifecycle = s.lifecycle ∧
      (s.lifecycle ≠ .running → (op.act s).state.mask = s.mask) := by
  rcases op.event_or_poke with ⟨e, he⟩ | ⟨addr, bytes, rfl⟩
  · rw [Operation.request_of_event he] at hop
    rw [(act_of_event he s).1]
    by_cases hs : s.lifecycle = .running
    · exact ⟨(stays_perform hop hs).1.trans hs.symm, fun h => absurd hs h⟩
    · have hinert := (passes_perform hs hop).inert
      obtain ⟨audio, boundPad, hrest⟩ := hinert.rest
      exact ⟨hinert.lifecycle, fun _ => by rw [hrest, mask, mask]; rfl⟩
  · exact ⟨rfl, fun _ => rfl⟩

theorem refused_act (hs : s.Settled) {op : Operation}
    (hop : (op.request s.config.hotkeys).guarded = true) (hplain : ∀ e, op ≠ .dispatch e) :
    (op.act s).result = .error .notRunning ↔ s.lifecycle = .unbooted := by
  rcases op.event_or_poke with ⟨e, he⟩ | ⟨addr, bytes, rfl⟩
  · rw [Operation.request_of_event he] at hop
    have hother := Request.not_boots_of_guarded hop
    have hheard : (op.act s).result = (perform e s).result := by
      rw [(act_of_event he s).2]
      cases op with
      | dispatch e' => exact absurd rfl (hplain e')
      | _ => rfl
    rw [hheard]
    by_cases hrun : s.lifecycle = .running
    · have hends := (stays_perform hother hrun).2
      constructor
      · exact fun h => absurd rfl (hends _ h).ne_notRunning
      · exact fun h => by simp [hrun] at h
    · have hidle := (passes_perform hrun hother).result
      rw [hidle, Request.whileIdle, if_pos hop]
      cases hl : s.lifecycle with
      | unbooted => exact iff_of_true rfl rfl
      | booting => exact absurd hl hs.lifecycle
      | running => exact absurd hl hrun
  · cases hop

theorem governed_act (hs : s.Settled) (op : Operation) : s.Governed op where
  booted := booted_act
  kept hop := (kept_act hop).1
  refused := refused_act hs

theorem settled_act (hs : s.Settled) (op : Operation) : (op.act s).state.Settled := by
  cases hop : (op.request s.config.hotkeys).boots with
  | true =>
    obtain ⟨hlife, hmask⟩ := booted_act hop
    refine ⟨?_, fun _ => hmask⟩
    rw [hlife]
    cases (op.act s).result <;> exact nofun
  | false =>
    obtain ⟨hlife, hmask⟩ := kept_act hop
    refine ⟨hlife ▸ hs.lifecycle, fun h => ?_⟩
    have hs' : s.lifecycle = .unbooted := hlife.symm.trans h
    have hrun : s.lifecycle ≠ .running := by
      rw [hs']
      exact nofun
    rw [hmask hrun, hs.mask hs']

/-- How the last boot of a run ended, if there was one. -/
def lastBoot : List Operation → Session → Option (Except Error Unit)
  | [], _ => none
  | op :: rest, s => (lastBoot rest (op.act s).state).or
    (if (op.request s.config.hotkeys).boots then some (op.act s).result else none)

/-- By induction on the operations: the lifecycle before them counts only while none of them
boots. -/
theorem lifecycle_performAll (ops : List Operation) (hs : s.Settled) :
    (performAll ops s).state.Settled ∧
      (performAll ops s).state.lifecycle = (lastBoot ops s).elim s.lifecycle .afterBoot := by
  induction ops generalizing s with
  | nil => exact ⟨hs, rfl⟩
  | cons op rest ih =>
    obtain ⟨hsettled, hlife⟩ := ih (settled_act hs op)
    rw [performAll_cons]
    refine ⟨hsettled, hlife.trans ?_⟩
    rw [lastBoot]
    cases lastBoot rest (op.act s).state with
    | some r => rfl
    | none =>
      cases hop : (op.request s.config.hotkeys).boots with
      | true => exact (booted_act hop).1
      | false => exact (kept_act hop).1

theorem Created.settled (hc : s.Created) : s.Settled := by
  obtain ⟨hinput, hlife, -⟩ := hc.fresh
  refine ⟨by rw [hlife]; exact nofun, fun _ => ?_⟩
  simp [mask, hinput, Arbiter.mask]

/-- Between operations a session runs exactly if its last boot has succeeded; nothing but a boot
moves the lifecycle, and what needs a running session is turned down exactly without one. -/
theorem lifecycle_eq_lastBoot (hc : s.Created) (ops : List Operation) :
    (performAll ops s).state.lifecycle = (lastBoot ops s).elim .unbooted .afterBoot ∧
      (performAll ops s).state.Settled ∧ ∀ op, (performAll ops s).state.Governed op := by
  obtain ⟨hsettled, hlife⟩ := lifecycle_performAll ops hc.settled
  refine ⟨?_, hsettled, governed_act hsettled⟩
  rw [hlife, hc.fresh.2.1]

theorem lifecycle_eq_lastBoot_quiet :
    (wheel ⟨0⟩ (performAll [.save, .dispatch .restore] quiet).state).result = .error .notRunning ∧
      (performAll [.boot, .save] quiet).state.lifecycle = .running := by
  obtain ⟨hidle, -, hgoverned⟩ := lifecycle_eq_lastBoot quiet_created [.save, .dispatch .restore]
  obtain ⟨hrun, -⟩ := lifecycle_eq_lastBoot quiet_created [.boot, .save]
  obtain ⟨memory, t, -, hb⟩ := quiet_boot
  have hlast : lastBoot [.boot, .save] quiet = some (.ok ()) := by
    have hboot : lastBoot [.boot, .save] quiet = some (boot quiet).result := rfl
    rw [hboot, hb]
  refine ⟨((hgoverned (.wheel ⟨0⟩)).refused rfl nofun).mpr hidle, ?_⟩
  rw [hrun, hlast]
  rfl

end Session

end GuestHost
