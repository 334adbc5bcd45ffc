import GuestHost.Proofs.Session.Latch

/-! The loop over events. What is not fatal is dropped on the way; the first error that is fatal
ends the loop, and no event behind it is handled. -/
namespace GuestHost.Session

variable {s : Session} {e : Event} {events : List Event}

/-- The session after the events, whatever came of each of them. -/
def handled (s : Session) (events : List Event) : Session :=
  events.foldl (fun s e => (perform e s).state) s

/-- All that came out meanwhile, with a note for each error that was dropped. -/
def transcript : Session → List Event → List Output
  | _, [] => []
  | s, e :: rest => (dispatch e s).trace ++ (perform e s).state.transcript rest

/-- Dispatched in order, no event brings an error. -/
def Calm (s : Session) (events : List Event) : Prop :=
  ∀ pre e post, events = pre ++ e :: post → ∃ d, (dispatch e (s.handled pre)).result = .ok d

/-- Some event is the first one to bring an error. The loop ends with it, and with what it has left
and said until then. -/
def StopsIn (s : Session) (events : List Event) (o : Outcome Error Session Unit) : Prop :=
  ∃ pre e post err s' t, events = pre ++ e :: post ∧ s.Calm pre ∧
    dispatch e (s.handled pre) = ⟨.error err, s', t⟩ ∧ o = ⟨.error err, s', s.transcript pre ++ t⟩

theorem calm_nil (s : Session) : s.Calm [] := by
  intro pre e post h
  simp at h

theorem calm_cons : s.Calm (e :: events) ↔
    (∃ d, (dispatch e s).result = .ok d) ∧ (perform e s).state.Calm events := by
  constructor
  · intro h
    refine ⟨h [] e events rfl, fun pre e' post hsplit => ?_⟩
    exact h (e :: pre) e' post (by rw [hsplit, List.cons_append])
  · rintro ⟨hfirst, hrest⟩ pre e' post hsplit
    cases pre with
    | nil =>
      obtain ⟨rfl, rfl⟩ := List.cons.inj hsplit
      exact hfirst
    | cons e₀ pre =>
      obtain ⟨rfl, hbehind⟩ := List.cons.inj hsplit
      exact hrest pre e' post hbehind

/-- By induction on the events: each leaves the session that the next one is dispatched to. -/
theorem drain_of_calm (h : s.Calm events) :
    drain events s = ⟨.ok (), s.handled events, s.transcript events⟩ := by
  induction events generalizing s with
  | nil => rfl
  | cons e rest ih =>
    obtain ⟨⟨d, hd⟩, hrest⟩ := calm_cons.mp h
    have hstate := (dispatch_same e s).1
    rw [drain, Act.bind_of_ok (Act.eq_of_result hd), hstate, ih hrest]
    rfl

theorem drain_of_not_calm (h : ¬s.Calm events) : s.StopsIn events (drain events s) := by
  induction events generalizing s with
  | nil => exact absurd (calm_nil s) h
  | cons e rest ih =>
    rcases hd : dispatch e s with ⟨err | d, s', t⟩
    · refine ⟨[], e, rest, err, s', t, rfl, calm_nil s, hd, ?_⟩
      rw [drain, Act.bind_of_error hd]
      rfl
    · have hok : ∃ d, (dispatch e s).result = .ok d := ⟨d, by rw [hd]⟩
      have hstate : (perform e s).state = s' := by rw [← (dispatch_same e s).1, hd]
      have hrest : ¬s'.Calm rest := fun hrest => h (calm_cons.mpr ⟨hok, hstate ▸ hrest⟩)
      obtain ⟨pre, e', post, err, s'', t', rfl, hcalm, hstop, hdrain⟩ := ih hrest
      refine ⟨e :: pre, e', post, err, s'', t', rfl, calm_cons.mpr ⟨hok, hstate ▸ hcalm⟩, ?_, ?_⟩
      · rw [handled, List.foldl_cons, hstate]
        exact hstop
      · rw [drain, Act.bind_of_ok hd, hdrain, transcript, hd, hstate, List.append_assoc]

theorem run_of_drain {s' : Session} {t : List Output}
    (h : drain events s = ⟨.ok (), s', t⟩) :
    run events s = ⟨.ok (), s', .note .loopStarted :: (t ++ [.note .loopFinished])⟩ := by
  rw [run, Act.note_bind, Act.bind_of_ok h]
  rfl

theorem run_of_drain_error {err : Error} {s' : Session} {t : List Output}
    (h : drain events s = ⟨.error err, s', t⟩) :
    run events s = ⟨.error err, s', .note .loopStarted :: t⟩ := by
  rw [run, Act.note_bind, Act.bind_of_error h]

/-- Two kinds of errors do not come out of an event; all others do, and these are few. -/
structure Sifts (exports : Guest.Exports) (s : Session) (e : Event) : Prop where
  passed : (∃ d, (dispatch e s).result = .ok d) ↔ ∀ err, (perform e s).result = .error err →
    err = .notRunning ∨ ∃ name, err = .unsupported name
  fatal : ∀ err, (dispatch e s).result = .error err → exports.Breaks err

theorem not_isFatal_iff {err : Error} :
    err.isFatal = false ↔ err = .notRunning ∨ ∃ name, err = .unsupported name := by
  cases err <;> simp [Error.isFatal]

theorem passed_iff : (∃ d, (dispatch e s).result = .ok d) ↔ ∀ err,
    (perform e s).result = .error err → err = .notRunning ∨ ∃ name, err = .unsupported name := by
  rw [result_dispatch]
  cases (perform e s).result with
  | ok a => exact iff_of_true ⟨_, rfl⟩ nofun
  | error err =>
    cases hf : err.isFatal with
    | false =>
      refine iff_of_true ⟨e.disposition, by simp [settled, hf]⟩ ?_
      rintro _ ⟨⟩
      exact not_isFatal_iff.mp hf
    | true =>
      refine iff_of_false (by simp [settled, hf]) fun h => ?_
      have hdropped := not_isFatal_iff.mpr (h err rfl)
      exact Bool.false_ne_true (hdropped.symm.trans hf)

theorem error_of_dispatch {err : Error} (h : (dispatch e s).result = .error err) :
    (perform e s).result = .error err ∧ err.isFatal = true := by
  rw [result_dispatch] at h
  cases hp : (perform e s).result with
  | ok a =>
    rw [hp] at h
    cases h
  | error err' =>
    rw [hp, settled] at h
    cases hf : err'.isFatal with
    | false => simp [hf] at h
    | true =>
      rw [hf, if_pos rfl] at h
      cases h
      exact ⟨rfl, hf⟩

variable {exports : Guest.Exports}

/-- Of the errors that the host itself turns events down with only the fatal ones are left. -/
theorem breaks_of_dispatch (h : s.vm.Hosts exports) {err : Error}
    (he : (dispatch e s).result = .error err) : exports.Breaks err := by
  obtain ⟨-, hfatal⟩ := error_of_dispatch he
  obtain ⟨vs, r, hcourse, hheard⟩ := exists_undergoes s (.dispatch e)
  have hact : ((Operation.dispatch e).act s).result = .error err := by
    rw [act_dispatch, he]
    rfl
  have hr : r = .error err := Operation.error_of_heard (hheard.symm.trans hact)
  by_cases hfail : ∃ v ∈ vs, v.Failed
  · obtain ⟨v, hv, hfailed⟩ := hfail
    exact h.breaks_of_failed hcourse hv hfailed hr
  · cases hcourse.refuses_of_error hr fun v hv hfailed => hfail ⟨v, hv, hfailed⟩ with
    | faulted => exact .integration .faulted
    | notRunning => cases hfatal
    | undeclared => cases hfatal
    | outside => exact .integration (.outOfRange _ _ _)

theorem hosts_handled (h : s.vm.Hosts exports) (events : List Event) :
    (s.handled events).vm.Hosts exports := by
  induction events generalizing s with
  | nil => exact h
  | cons e rest ih =>
    obtain ⟨vs, r, hcourse, -⟩ := exists_undergoes s (.dispatch e)
    have hnext := h.course hcourse
    rw [act_dispatch, (dispatch_same e s).1] at hnext
    exact ih hnext

theorem sifts_handled (h : s.vm.Hosts exports) (pre : List Event) (e : Event) :
    Sifts exports (s.handled pre) e where
  passed := passed_iff
  fatal _ := breaks_of_dispatch (hosts_handled h pre)

theorem run_of_calm (h : s.Calm events) : run events s = ⟨.ok (), s.handled events,
    .note .loopStarted :: (s.transcript events ++ [.note .loopFinished])⟩ :=
  run_of_drain (drain_of_calm h)

theorem run_of_not_calm (h : ¬s.Calm events) : ∃ o, s.StopsIn events o ∧
    run events s = ⟨o.result, o.state, .note .loopStarted :: o.trace⟩ := by
  obtain ⟨pre, e, post, err, s', t, hsplit, hcalm, hd, ho⟩ := drain_of_not_calm h
  exact ⟨_, ⟨pre, e, post, err, s', t, hsplit, hcalm, hd, rfl⟩, run_of_drain_error ho⟩

theorem breaks_of_run (h : s.vm.Hosts exports) {err : Error}
    (he : (run events s).result = .error err) : exports.Breaks err := by
  by_cases hcalm : s.Calm events
  · rw [run_of_calm hcalm] at he
    cases he
  · obtain ⟨o, ⟨pre, e, post, err', s', t, -, -, hd, rfl⟩, hrun⟩ := run_of_not_calm hcalm
    rw [hrun] at he
    cases he
    exact (sifts_handled h pre e).fatal _ (congrArg Outcome.result hd)

theorem run_ok_iff (events : List Event) (s : Session) :
    (run events s).result = .ok () ↔ s.Calm events := by
  refine ⟨fun hok => Classical.byContradiction fun hcalm => ?_, fun h => by rw [run_of_calm h]⟩
  obtain ⟨o, ⟨pre, e, post, err, s', t, -, -, -, rfl⟩, hrun⟩ := run_of_not_calm hcalm
  rw [hrun] at hok
  cases hok

/-- The loop succeeds exactly when no event brings an error, and has then handled them all; else it
ends with the first error. This is one of the four kinds that code of the guest can bring about, but
for services that the guest hands on: they find no memory. -/
theorem run_stops_at_first_error (hs : s.Reachable) (events : List Event) :
    ((run events s).result = .ok () ↔ s.Calm events) ∧
      (s.Calm events → run events s = ⟨.ok (), s.handled events,
        .note .loopStarted :: (s.transcript events ++ [.note .loopFinished])⟩) ∧
      (¬s.Calm events → ∃ o, s.StopsIn events o ∧
        run events s = ⟨o.result, o.state, .note .loopStarted :: o.trace⟩) ∧
      ∃ exports, s.vm.Hosts exports ∧
        (∀ err, (run events s).result = .error err → exports.Breaks err) ∧
        ∀ pre e, Sifts exports (s.handled pre) e := by
  obtain ⟨exports, hhosts⟩ := hs.hosts
  exact ⟨run_ok_iff events s, run_of_calm, run_of_not_calm, exports, hhosts,
    fun _ => breaks_of_run hhosts, sifts_handled hhosts⟩

/-- A tick that comes too early is dropped; the reset fails, and the gamepad is never bound. -/
theorem run_stops_at_first_error_homeless :
    (run [.frame .none, .reset, .padConnected 0 true] homeless).result =
        .error (.outOfRange 0 16 0) ∧
      (run [.frame .none, .reset, .padConnected 0 true] homeless).state.input.boundPad = none ∧
      ¬homeless.Calm [.frame .none, .reset, .padConnected 0 true] := by
  obtain ⟨hiff, -⟩ := run_stops_at_first_error homeless_created.reachable
    [.frame .none, .reset, .padConnected 0 true]
  have hresult : (run [.frame .none, .reset, .padConnected 0 true] homeless).result =
      .error (.outOfRange 0 16 0) := by rfl
  refine ⟨hresult, by with_unfolding_all rfl, fun hcalm => ?_⟩
  cases hresult.symm.trans (hiff.mpr hcalm)

/-- Two layers are shown by pressing a key of this guest: no memory is found for them, although the
guest exports one. -/
theorem rendering_key : ∃ s : Session, s.Reachable ∧ s.vm.machine.exported = true ∧
    (run [.key ⟨.down, 16, "Shift"⟩] s).result = .error .missingMemory := by
  obtain ⟨memory, hs⟩ := reachable_handing .onKeyboardEvent .render rfl
  exact ⟨_, hs, rfl, rfl⟩

/-- Not every error that ends the loop is one of the four kinds. -/
theorem rendering_key_not_integration : ¬∀ (s : Session) (events : List Event) (err : Error),
    s.Reachable → s.vm.machine.exported = true → (run events s).result = .error err →
      err.Integration := by
  intro hall
  obtain ⟨s, hs, hm, hresult⟩ := rendering_key
  cases hall s [.key ⟨.down, 16, "Shift"⟩] _ hs hm hresult

end GuestHost.Session
