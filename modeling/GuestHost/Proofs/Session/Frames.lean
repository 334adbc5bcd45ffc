import GuestHost.Proofs.Display.Frames
import GuestHost.Proofs.Session.Course
import GuestHost.Proofs.Session.Parts

/-! What a session has shown since its guest was started, and what it knows of it. -/
namespace GuestHost

/-- The frames that the start of a guest makes. -/
def Guest.Module.opening (guest : Guest.Module) (d : Config.Display) (clock : Clock) : List Frame :=
  (writeSegments guest.blankMemory guest.data).elim [] fun memory =>
    filmed d .guest
      ((guest.start.getD (.ret ())).asks .guest (.ofModule guest memory d clock))

variable {d : Config.Display} {fs : List Frame}

namespace Guest.Module.Starts

variable {guest : Guest.Module} {clock : Clock} {m : Machine} {t : List Output}
  (h : guest.Starts d clock m t)
include h

theorem exported_eq : m.exported = Guest.exportsMemory guest.exports := by
  obtain ⟨memory, -, hrun⟩ := h
  exact (Code.held_of_run hrun).exported

/-- The compositor of a new machine has shown nothing yet. -/
theorem films (hd : d.layerLength?.isSome = true) :
    frames t = guest.opening d clock ∧ m.compositor.Shows d (frames t) := by
  obtain ⟨memory, hmemory, hrun⟩ := h
  let m₀ := Machine.ofModule guest memory d clock
  have hblank : m₀.compositor.Shows d [] := Compositor.shows_blank hd
  have hfilms : Films d [] .guest _ (Code.run .guest _ m₀) :=
    Code.films_run (guest.start.getD (.ret ())) hblank
  rw [hrun] at hfilms
  obtain ⟨hframes, hshows⟩ := hfilms
  rw [opening, hmemory, hframes]
  exact ⟨rfl, hshows⟩

end Guest.Module.Starts

namespace Session

variable {s : Session}

/-- These frames are all that has been shown, the session knows how many they are and which is the
last of them, and whatever is done next shows what the guest renders meanwhile. -/
structure Accounts (s : Session) (fs : List Frame) : Prop where
  compositor : s.vm.machine.compositor.Shows s.config.display fs
  presented : s.presented = fs.length
  frame : s.frame = fs.getLastD (.blank s.config.display)
  courses : ∀ op, ∃ vs r, Undergoes s op vs r
  visits : ∀ op vs r, Undergoes s op vs r →
    frames (op.act s).trace = vs.flatMap (Visit.frames s.config.display)

theorem accounts_of_shows
    (h : s.vm.machine.compositor.Shows s.config.display fs) : s.Accounts fs where
  compositor := h
  presented := h.presented
  frame := h.frame
  courses := exists_undergoes s
  visits _ _ _ hu := (hu.course.films h).1

/-- By induction on the operations: each of them finds what the guest has shown before it. -/
theorem shows_performAll (ops : List Operation) (h : s.vm.machine.compositor.Shows d fs) :
    (performAll ops s).state.vm.machine.compositor.Shows d
      (fs ++ frames (performAll ops s).trace) := by
  induction ops generalizing s fs with
  | nil =>
    have hnone : fs ++ frames (performAll [] s).trace = fs := List.append_nil fs
    rw [hnone]
    exact h
  | cons op rest ih =>
    obtain ⟨vs, r, hu⟩ := exists_undergoes s op
    have hrest := ih (hu.course.films h).2
    rw [performAll_cons, frames_append, ← List.append_assoc]
    exact hrest

/-- A new session has shown what the start of its guest made. -/
theorem shows_create {read : Container.Assembler} {engine : Guest.Engine} {config : Config}
    {code rom : ByteArray} {surroundings : Surroundings} {t : List Output}
    (h : create read engine config code rom surroundings () = ⟨.ok s, (), t⟩) :
    s.config = config ∧ s.vm.machine.compositor.Shows config.display (frames t) ∧
      ∃ guest, engine.load read code = .ok guest ∧
        frames t = guest.opening config.display surroundings.clock := by
  obtain ⟨hv, -, guest, vm, t₀, hload, hvm, rfl, rfl⟩ := create_ok h
  obtain ⟨-, -, -, t₁, t₂, hstarts, rfl, hnotes⟩ := Vm.ofModule_ok hvm
  have hfits := Config.fits_of_defect? (Config.defect?_of_validate hv)
  obtain ⟨hopening, hshows⟩ := hstarts.films (Config.Display.isSome_of_fits hfits)
  have hstart : frames (t₁ ++ t₂ ++ [.note (.instantiated config.display.width
      config.display.height rom.size)]) = frames t₁ := by
    have hnote : ∀ n, frames [.note n] = [] := fun _ => rfl
    rw [frames_append, frames_append, frames_of_fromHost hnotes, hnote, List.append_nil,
      List.append_nil]
  rw [hstart]
  exact ⟨rfl, hshows, guest, hload, hopening⟩

/-- Compositors account for all that they have shown, and so do sessions, from the start of their
guest on and whatever is done to them. -/
theorem frames_accounted :
    (∀ d : Config.Display, d.layerLength?.isSome = true → Compositor.Accountable d) ∧
      ∀ read engine config code rom surroundings s t,
        create read engine config code rom surroundings () = ⟨.ok s, (), t⟩ →
          (∃ guest, engine.load read code = .ok guest ∧
            frames t = guest.opening config.display surroundings.clock) ∧
          ∀ ops, (performAll ops s).state.Accounts (frames (t ++ (performAll ops s).trace)) := by
  refine ⟨fun d => Compositor.accountable, ?_⟩
  intro read engine config code rom surroundings s t h
  obtain ⟨rfl, hshows, hopening⟩ := shows_create h
  refine ⟨hopening, fun ops => accounts_of_shows ?_⟩
  rw [(sameSetup_performAll ops s).config, frames_append]
  exact shows_performAll ops hshows

end Session

/-- A guest that draws one pixel when it starts. -/
def Guest.Module.painting : Guest.Module :=
  { bare 1 (.ret ()) [] with start := some (.host (.render 0 4) (.ret ())) }

namespace Guest.Module

variable (clock : Clock)

/-- One pixel takes four bytes, and a page has plenty of them. -/
theorem painting_starts : ∃ m f, painting.Starts ⟨1, 1⟩ clock m [.frame f] := by
  let d : Config.Display := ⟨1, 1⟩
  obtain ⟨memory, hmemory⟩ : ∃ memory, memory = Memory.blank 1 none := ⟨_, rfl⟩
  have hsize : memory.bytes.size = Memory.pageSize := by
    rw [hmemory]
    exact Memory.size_blank 1 none
  have hfits : ∃ f, Render.composed ⟨memory.bytes, 0, 4⟩ d = .ok f := by
    rw [Render.composed_eq_due rfl (by rw [hsize]; decide), Render.due, hsize]
    exact ⟨_, rfl⟩
  obtain ⟨f, hf⟩ := hfits
  let m := Machine.ofModule painting memory d clock
  have hfound : m.finds .guest = true := rfl
  have hblank : m.compositor.Shows d [] := Compositor.shows_blank rfl
  obtain ⟨c, hrender, -⟩ := Machine.render_of_ok hfound hblank hf
  have hanswer : Machine.answer .guest (.render 0 4) m =
      ⟨.ok (), { m with compositor := c }, [.frame f]⟩ := hrender
  have hrun : (Code.host (.render 0 4) (.ret ())).run .guest m =
      ⟨.ok (), { m with compositor := c }, [.frame f]⟩ := by
    simp only [Code.run, hanswer]
    rfl
  exact ⟨_, f, memory, congrArg some hmemory.symm, hrun⟩

end Guest.Module

namespace Session

def painting : Act Error Unit Session :=
  create (fun _ => none) Guest.Module.painting.engine { display := ⟨1, 1⟩ } Container.emptyModule
    ⟨#[0xa0]⟩ ⟨quiet.vm.machine.clock, none⟩

theorem painting_ok : ∃ s f t, painting () = ⟨.ok s, (), t⟩ ∧ frames t = [f] := by
  obtain ⟨m, f, hstarts⟩ := Guest.Module.painting_starts quiet.vm.machine.clock
  have hentry : ∃ entry t, Guest.Exports.entrypoints Guest.Module.painting.exports () =
      (⟨.ok entry, (), t⟩ : Outcome Error Unit Guest.Entrypoints) ∧ frames t = [] :=
    ⟨_, _, rfl, rfl⟩
  obtain ⟨entry, t, hentry, ht⟩ := hentry
  have hvm := Vm.ofModule_of_starts hstarts hstarts.exported_eq (fun _ => id) hentry
  refine ⟨_, f, _, create_of_ok rfl (by decide) rfl hvm, ?_⟩
  rw [frames_append, frames_append, ht]
  rfl

/-- The second of these renders lies outside its memory, and the start of this guest makes one
frame. -/
theorem frames_accounted_painting :
    (Compositor.presentAll [⟨Bytes.zeros 8, 0, 2⟩, ⟨.empty, 0, 0⟩]
      { display := ⟨1, 1⟩ }).state.presented = 1 ∧
    ∃ s f t, painting () = ⟨.ok s, (), t⟩ ∧ frames t = [f] ∧ s.presented = 1 ∧ s.frame = f := by
  obtain ⟨s, f, t, hs, ht⟩ := painting_ok
  obtain ⟨hcompositors, hsessions⟩ := frames_accounted
  have hcompositor := hcompositors ⟨1, 1⟩ rfl
  obtain ⟨-, haccounts⟩ := hsessions _ _ _ _ _ _ s t hs
  have hshown : frames (t ++ (performAll [] s).trace) = [f] := by
    have hnone : (performAll [] s).trace = [] := rfl
    rw [hnone, List.append_nil, ht]
  have hsession := haccounts []
  rw [hshown] at hsession
  refine ⟨?_, s, f, t, hs, ht, hsession.presented, hsession.frame⟩
  rw [(hcompositor.shows _).presented, hcompositor.frames]
  rfl

end Session

end GuestHost
