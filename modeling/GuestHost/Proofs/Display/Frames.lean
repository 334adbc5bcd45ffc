import GuestHost.Proofs.Course
import GuestHost.Proofs.Display.Compositor

/-! The frames that guest code makes its host show: the layers of its render calls, as the memory
holds them at each call. -/
namespace GuestHost

section Trace

variable {t : List Output}

theorem frames_eq_nil (h : ∀ o ∈ t, o.frame? = none) : frames t = [] :=
  List.filterMap_eq_nil_iff.mpr h

theorem frames_of_fromHost (h : ∀ o ∈ t, o.fromHost = true) : frames t = [] := by
  refine frames_eq_nil fun o ho => ?_
  have hhost := h o ho
  cases o with
  | frame f => cases hhost
  | _ => rfl

@[simp] theorem frames_call (c : Call) (t : List Output) : frames (.call c :: t) = frames t := rfl

theorem frames_lines (texts : List String) : frames (texts.map .line) = [] := by
  refine frames_eq_nil fun o ho => ?_
  obtain ⟨text, -, rfl⟩ := List.mem_map.mp ho
  rfl

end Trace

/-- The frame that a host call makes, if it makes one. -/
def HostCall.frame? (d : Config.Display) (caller : Caller) (m : Machine) :
    HostCall → Option Frame
  | .render bg fg =>
    if m.finds caller then (Render.composed ⟨m.memory.bytes, bg, fg⟩ d).toOption else none
  | _ => none

/-- The host calls that a run of the code makes, each with the machine that it finds. -/
def Code.asks {α : Type} (caller : Caller) : Code α → Machine → List (Machine × HostCall)
  | .ret _ => fun _ => []
  | .trap _ => fun _ => []
  | .pages next => fun m => (next m.memory.pages.toUInt32).asks caller m
  | .grow delta next => fun m => match m.memory.grow? delta.toNat with
    | some memory => (next m.memory.pages.toUInt32).asks caller { m with memory }
    | none => (next noPages).asks caller m
  | .load addr len next => fun m => match m.memory.load? addr len with
    | some bytes => (next bytes).asks caller m
    | none => []
  | .store addr bytes next => fun m => match m.memory.store? addr bytes with
    | some memory => next.asks caller { m with memory }
    | none => []
  | .fill addr byte len next => fun m => match m.memory.fill? addr byte len with
    | some memory => next.asks caller { m with memory }
    | none => []
  | .global i next => fun m => (next (m.globals i)).asks caller m
  | .setGlobal i v next => fun m => next.asks caller
      { m with globals := fun j => if j = i then v else m.globals j }
  | .host c next => fun m => (m, c) :: match Machine.answer caller c m with
    | ⟨.ok (), m, _⟩ => next.asks caller m
    | ⟨.error _, _, _⟩ => []

/-- The frames that these calls make. -/
def filmed (d : Config.Display) (caller : Caller) (asks : List (Machine × HostCall)) :
    List Frame :=
  asks.filterMap fun (m, c) => c.frame? d caller m

theorem filmed_cons (d : Config.Display) (caller : Caller) (m : Machine) (c : HostCall)
    (asks : List (Machine × HostCall)) :
    filmed d caller ((m, c) :: asks) = (c.frame? d caller m).toList ++ filmed d caller asks := by
  cases hf : c.frame? d caller m <;> simp [filmed, hf]

/-- What came out shows the frames of these calls, and leaves a compositor that has presented them
after `fs`. -/
structure Films {α : Type} (d : Config.Display) (fs : List Frame) (caller : Caller)
    (asks : List (Machine × HostCall)) (o : Outcome Stop Machine α) : Prop where
  frames : frames o.trace = filmed d caller asks
  shows : o.state.compositor.Shows d (fs ++ filmed d caller asks)

variable {α : Type} {m : Machine} {caller : Caller} {d : Config.Display} {fs : List Frame}

theorem Films.nil (h : m.compositor.Shows d fs) (r : Except Stop α) :
    Films d fs caller [] ⟨r, m, []⟩ where
  frames := rfl
  shows := by
    have hnone : fs ++ filmed d caller [] = fs := List.append_nil fs
    rw [hnone]
    exact h

namespace Machine

/-- A render of what the memory holds, where there is one. -/
theorem render_eq (hm : m.finds caller = true) (bg fg : UInt32) :
    render caller bg fg m = Act.on compositor (fun c m => { m with compositor := c })
      (Compositor.present ⟨m.memory.bytes, bg, fg⟩) m := by
  have hmem := exportedMemory_eq hm
  rw [render, Act.bind_of_silent hmem, Act.get_bind]
  simp only [Act.on, Compositor.present, Act.get_bind]
  cases m.compositor.render m.memory.bytes bg fg <;> rfl

theorem render_of_error (hm : m.finds caller = true) (h : m.compositor.Shows d fs)
    {bg fg : UInt32} {e : Error} (hr : Render.composed ⟨m.memory.bytes, bg, fg⟩ d = .error e) :
    render caller bg fg m = ⟨.error e, m, []⟩ := by
  rw [render_eq hm, Act.on, Compositor.present_of_error h.display hr]

theorem render_of_ok (hm : m.finds caller = true) (h : m.compositor.Shows d fs)
    {bg fg : UInt32} {f : Frame} (hr : Render.composed ⟨m.memory.bytes, bg, fg⟩ d = .ok f) :
    ∃ c, render caller bg fg m = ⟨.ok (), { m with compositor := c }, [.frame f]⟩ ∧
      c.Shows d (fs ++ [f]) := by
  obtain ⟨c, hpresent, hshows⟩ := Compositor.present_of_ok h hr
  refine ⟨c, ?_, hshows⟩
  rw [render_eq hm, Act.on, hpresent]

/-- What came out shows the frame that the call makes, if it makes one, and so does the compositor
that it leaves. -/
def FilmsCall (m : Machine) (d : Config.Display) (fs : List Frame) (caller : Caller) (c : HostCall)
    (o : Outcome Error Machine Unit) : Prop :=
  frames o.trace = (c.frame? d caller m).toList ∧
    o.state.compositor.Shows d (fs ++ (c.frame? d caller m).toList)

theorem FilmsCall.of_silent {c : HostCall} {o : Outcome Error Machine Unit}
    (h : m.compositor.Shows d fs) (hc : c.frame? d caller m = none) (ht : frames o.trace = [])
    (ho : o.state.compositor = m.compositor) : m.FilmsCall d fs caller c o := by
  rw [FilmsCall, hc, ho, Option.toList_none, List.append_nil]
  exact ⟨ht, h⟩

theorem filmsCall_of_homeless (hm : m.finds caller = false) (h : m.compositor.Shows d fs)
    (c : HostCall) : m.FilmsCall d fs caller c (answer caller c m) := by
  have hnone : c.frame? d caller m = none := by
    cases c with
    | render bg fg => rw [HostCall.frame?, hm, if_neg Bool.false_ne_true]
    | _ => rfl
  cases hc : c.usesMemory with
  | false =>
    cases c with
    | printChar code => exact .of_silent h rfl (frames_lines _) rfl
    | _ => cases hc
  | true =>
    rw [answer_of_homeless hm hc]
    exact .of_silent h hnone rfl rfl

/-- Only a render touches the compositor, and only a render shows a frame. -/
theorem filmsCall_answer (h : m.compositor.Shows d fs) (caller : Caller) (c : HostCall) :
    m.FilmsCall d fs caller c (answer caller c m) := by
  cases hm : m.finds caller with
  | false => exact filmsCall_of_homeless hm h c
  | true =>
    have hmem := exportedMemory_eq hm
    cases c with
    | printChar code => exact .of_silent h rfl (frames_lines _) rfl
    | printStr ptr =>
      rw [answer, printStr, Act.bind_of_silent hmem]
      cases terminatedText m.memory.bytes ptr with
      | error e => exact .of_silent h rfl rfl rfl
      | ok text => exact .of_silent h rfl (frames_lines _) rfl
    | render bg fg =>
      rw [FilmsCall, answer, HostCall.frame?, if_pos hm]
      cases hr : Render.composed ⟨m.memory.bytes, bg, fg⟩ d with
      | error e =>
        have hsame : fs ++ (Except.error e : Except Error Frame).toOption.toList = fs :=
          List.append_nil fs
        rw [render_of_error hm h hr, hsame]
        exact ⟨rfl, h⟩
      | ok f =>
        obtain ⟨c, hrender, hshows⟩ := render_of_ok hm h hr
        rw [hrender]
        exact ⟨rfl, hshows⟩
    | getDateTime out =>
      rw [answer, getDateTime_eq hm]
      cases m.memory.write out (m.clock m.readings).record with
      | error e => exact .of_silent h rfl rfl rfl
      | ok memory => exact .of_silent h rfl rfl rfl

end Machine

namespace Code

/-- By induction on the code: what its first step shows comes before what the rest of it shows. -/
theorem films_run (code : Code α) (h : m.compositor.Shows d fs) :
    Films d fs caller (code.asks caller m) (code.run caller m) := by
  induction code generalizing m fs with
  | ret a => exact .nil h _
  | trap t => exact .nil h _
  | pages next ih => exact ih _ h
  | grow delta next ih =>
    cases hg : m.memory.grow? delta.toNat with
    | none =>
      simp only [asks, run, hg]
      exact ih noPages h
    | some memory =>
      simp only [asks, run, hg]
      exact ih _ h
  | load addr len next ih =>
    cases hl : m.memory.load? addr len with
    | none =>
      simp only [asks, run, hl]
      exact .nil h _
    | some bytes =>
      simp only [asks, run, hl]
      exact ih bytes h
  | store addr bytes next ih =>
    cases hs : m.memory.store? addr bytes with
    | none =>
      simp only [asks, run, hs]
      exact .nil h _
    | some memory =>
      simp only [asks, run, hs]
      exact ih h
  | fill addr byte len next ih =>
    cases hf : m.memory.fill? addr byte len with
    | none =>
      simp only [asks, run, hf]
      exact .nil h _
    | some memory =>
      simp only [asks, run, hf]
      exact ih h
  | global i next ih => exact ih _ h
  | setGlobal i v next ih => exact ih h
  | host c next ih =>
    obtain ⟨hframes, hshows⟩ := Machine.filmsCall_answer h caller c
    rcases hc : Machine.answer caller c m with ⟨e | _, m', t⟩ <;> rw [hc] at hframes hshows
    · simp only [asks, run, hc]
      rw [← List.append_nil (c.frame? d caller m).toList] at hframes hshows
      exact ⟨hframes.trans (filmed_cons d caller m c []).symm, filmed_cons d caller m c [] ▸ hshows⟩
    · obtain ⟨hrest, hend⟩ := ih hshows
      simp only [asks, run, hc]
      refine ⟨?_, ?_⟩
      · rw [frames_append, hframes, hrest, filmed_cons]
      · rw [filmed_cons, ← List.append_assoc]
        exact hend

end Code

/-- The frames that the visit makes. -/
def Visit.frames (d : Config.Display) (v : Visit) : List Frame :=
  filmed d v.routine.caller (v.routine.code.asks v.routine.caller v.machine)

/-- By induction on the course: frames come out of its visits only, and each visit finds the
compositor that the others have left. -/
theorem Vm.Course.films {vm vm' : Vm} {vs : List Visit} {t : List Output} {r : Except Error Unit}
    (h : Course vm vs t r vm') (hs : vm.machine.compositor.Shows d fs) :
    GuestHost.frames t = vs.flatMap (Visit.frames d) ∧
      vm'.machine.compositor.Shows d (fs ++ GuestHost.frames t) := by
  induction h generalizing fs with
  | done =>
    rw [frames_nil, List.append_nil]
    exact ⟨rfl, hs⟩
  | refused _ ht =>
    rw [frames_of_fromHost ht, List.append_nil]
    exact ⟨rfl, hs⟩
  | @said _ _ _ o t _ ho _ ih =>
    have hone : GuestHost.frames [o] = [] := frames_of_fromHost (by simpa using ho)
    rw [← List.singleton_append, frames_append, hone, List.nil_append]
    exact ih hs
  | wrote _ _ ih => exact ih hs
  | flushed hflush _ ih =>
    cases hflush
    rw [frames_append, frames_lines, List.nil_append]
    exact ih hs
  | @returned _ _ _ routine _ _ _ _ _ _ _ hrun _ ih =>
    have hfilms : Films d fs routine.caller _ (routine.run _) := Code.films_run routine.code hs
    rw [hrun] at hfilms
    obtain ⟨hfirst, hshows⟩ := hfilms
    obtain ⟨hrest, hend⟩ := ih hshows
    rw [frames_call, frames_append, hfirst]
    refine ⟨?_, ?_⟩
    · rw [hrest, List.flatMap_cons]
      rfl
    · rw [← List.append_assoc]
      exact hend
  | @failed _ _ routine _ _ _ _ _ _ hrun ht =>
    have hfilms : Films d fs routine.caller _ (routine.run _) := Code.films_run routine.code hs
    rw [hrun] at hfilms
    obtain ⟨hfirst, hshows⟩ := hfilms
    rw [frames_call, frames_append, frames_of_fromHost ht, List.append_nil, hfirst]
    exact ⟨(List.append_nil _).symm, hshows⟩

end GuestHost
