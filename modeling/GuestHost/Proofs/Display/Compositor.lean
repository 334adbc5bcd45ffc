import GuestHost.Act
import GuestHost.Display.Compositor
import GuestHost.Proofs.Act
import GuestHost.Proofs.Memory

/-! One frame after another. Buffers, counter and frame of a compositor stay in step with what it
has presented, whatever it is asked to render. -/
namespace GuestHost

theorem Config.Display.layerLength_eq {d : Config.Display} (h : d.layerLength?.isSome = true) :
    d.layerLength = 4 * d.width.toNat * d.height.toNat := by
  obtain ⟨n, hn⟩ := Option.isSome_iff_exists.mp h
  obtain ⟨pixels, hpixels, hbytes⟩ := Option.bind_eq_some_iff.mp hn
  obtain ⟨harea, -⟩ := Word.mul?_eq_some_iff.mp hpixels
  obtain ⟨hlength, -⟩ := Word.mul?_eq_some_iff.mp hbytes
  rw [layerLength, hn, Option.getD_some, ← hlength, ← harea, Nat.mul_comm, Nat.mul_assoc]

namespace Blend

/-- `fg` over `bg`. -/
def overlay (bg fg : ByteArray) : ByteArray :=
  Bytes.tabulate bg.size (byte bg fg)

/-- Layers of whole pixels leave nothing of what they are drawn onto. -/
theorem compose_eq_overlay {bg fg out : ByteArray} (hfg : fg.size = bg.size)
    (hout : out.size = bg.size) (hpixels : 4 ∣ bg.size) : compose bg fg out = overlay bg fg := by
  have hcovered : 4 * pixels bg fg out = bg.size := by
    unfold pixels
    omega
  unfold compose overlay
  rw [hcovered, hout]
  exact Bytes.tabulate_congr fun i hi => if_pos hi

end Blend

/-- What a compositor is asked for: two layers in a memory. -/
structure Render where
  memory : ByteArray
  bg : UInt32
  fg : UInt32

namespace Render

/-- The layer that starts at `addr`. -/
def layer (r : Render) (d : Config.Display) (addr : UInt32) : ByteArray :=
  r.memory.extract addr.toNat (addr.toNat + d.layerLength)

/-- The frame that the layers make, unless the memory does not hold them. The background is looked
for first. -/
def composed (r : Render) (d : Config.Display) : Except Error Frame :=
  if Span.Misses r.memory.size r.bg d.layerLength then
    .error (.outOfRange r.bg.toNat d.layerLength r.memory.size)
  else if Span.Misses r.memory.size r.fg d.layerLength then
    .error (.outOfRange r.fg.toNat d.layerLength r.memory.size)
  else .ok ⟨d.width, d.height, Blend.overlay (r.layer d r.bg) (r.layer d r.fg)⟩

/-- The frame that is due in any memory there can be: a render fails exactly if one of its layers
goes beyond the memory. -/
def due (r : Render) (d : Config.Display) : Except Error Frame :=
  let len := 4 * d.width.toNat * d.height.toNat
  if r.memory.size < r.bg.toNat + len then .error (.outOfRange r.bg.toNat len r.memory.size)
  else if r.memory.size < r.fg.toNat + len then
    .error (.outOfRange r.fg.toNat len r.memory.size)
  else .ok ⟨d.width, d.height, Blend.overlay
    (r.memory.extract r.bg.toNat (r.bg.toNat + len))
    (r.memory.extract r.fg.toNat (r.fg.toNat + len))⟩

theorem composed_eq_due {r : Render} {d : Config.Display} (hd : d.layerLength?.isSome = true)
    (hr : r.memory.size < Word.bound) : r.composed d = r.due d := by
  simp only [composed, due, layer, Span.misses_iff hr, Config.Display.layerLength_eq hd]

end Render

/-- What is shown before anything is drawn. -/
def Frame.blank (d : Config.Display) : Frame :=
  ⟨d.width, d.height, Bytes.zeros (4 * d.width.toNat * d.height.toNat)⟩

def Output.frame? : Output → Option Frame
  | .frame f => some f
  | _ => none

/-- The frames that the sink has received, in their order. -/
def frames (t : List Output) : List Frame :=
  t.filterMap Output.frame?

@[simp] theorem frames_nil : frames [] = [] := rfl

@[simp] theorem frames_append (t t' : List Output) : frames (t ++ t') = frames t ++ frames t' :=
  List.filterMap_append

@[simp] theorem frames_frame (f : Frame) (t : List Output) :
    frames (.frame f :: t) = f :: frames t := rfl

/-- The three buffers have the length of a layer. -/
structure Compositor.Whole (c : Compositor) : Prop where
  background : c.current.background.size = c.layerLength
  foreground : c.current.foreground.size = c.layerLength
  output : c.current.output.size = c.layerLength

/-- All that a compositor for this display has presented are these frames. -/
structure Compositor.Shows (d : Config.Display) (c : Compositor) (fs : List Frame) : Prop where
  display : c.display = d
  length : c.layerLength = 4 * d.width.toNat * d.height.toNat
  whole : c.Whole
  presented : c.presented = fs.length
  frame : c.frame = fs.getLastD (.blank d)

namespace Compositor

variable {c : Compositor} {memory : ByteArray} {bg fg : UInt32}

theorem render_of_not_misses (hb : ¬Span.Misses memory.size bg c.layerLength)
    (hf : ¬Span.Misses memory.size fg c.layerLength) :
    c.render memory bg fg = .ok (c.draw
      (memory.extract bg.toNat (bg.toNat + c.layerLength))
      (memory.extract fg.toNat (fg.toNat + c.layerLength))) := by
  rw [render, Span.within_of_not_misses hb, Span.within_of_not_misses hf]
  rfl

theorem render_of_background (hb : Span.Misses memory.size bg c.layerLength) :
    c.render memory bg fg = .error (.outOfRange bg.toNat c.layerLength memory.size) := by
  rw [render, Span.within_of_misses hb]
  rfl

theorem render_of_foreground (hb : ¬Span.Misses memory.size bg c.layerLength)
    (hf : Span.Misses memory.size fg c.layerLength) :
    c.render memory bg fg = .error (.outOfRange fg.toNat c.layerLength memory.size) := by
  rw [render, Span.within_of_not_misses hb, Span.within_of_misses hf]
  rfl

theorem whole_blank (display : Config.Display) : Whole { display } :=
  ⟨Bytes.size_zeros _, Bytes.size_zeros _, Bytes.size_zeros _⟩

theorem Whole.draw (h : c.Whole) {background foreground : ByteArray}
    (hb : background.size = c.layerLength) (hf : foreground.size = c.layerLength) :
    (c.draw background foreground).Whole where
  background := hb
  foreground := hf
  output := by
    change (Blend.compose background foreground c.current.output).size = c.layerLength
    rw [Blend.compose, Bytes.size_tabulate, h.output]

theorem Whole.render {c' : Compositor} (h : c.Whole) (hr : c.render memory bg fg = .ok c') :
    c'.Whole := by
  by_cases hb : Span.Misses memory.size bg c.layerLength
  · rw [render_of_background hb] at hr
    cases hr
  · by_cases hf : Span.Misses memory.size fg c.layerLength
    · rw [render_of_foreground hb hf] at hr
      cases hr
    · rw [render_of_not_misses hb hf] at hr
      cases hr
      exact h.draw (Span.size_extract_of_not_misses hb) (Span.size_extract_of_not_misses hf)

/-- Renders, and hands the frame to the sink. -/
def present (r : Render) : Act Error Compositor Unit := do
  let c ← Act.get
  let c ← Act.ofExcept (c.render r.memory r.bg r.fg)
  Act.modify fun _ => c
  Act.emit (.frame c.frame)

/-- One render after another, whether or not they succeed. -/
def presentAll : List Render → Act Error Compositor Unit
  | [] => pure ()
  | r :: rest => do
    let _ : Except Error Unit ← Act.attempt (present r)
    presentAll rest

variable {d : Config.Display} {fs : List Frame} {r : Render}

theorem shows_blank (h : d.layerLength?.isSome = true) : Shows d { display := d } [] where
  display := rfl
  length := Config.Display.layerLength_eq h
  whole := whole_blank d
  presented := rfl
  frame := by
    rw [List.getLastD_nil, Frame.blank, ← Config.Display.layerLength_eq h]
    rfl

/-- What the memory does not hold is not shown, and changes nothing. -/
theorem present_of_error (hd : c.display = d) {e : Error} (hr : r.composed d = .error e) :
    present r c = ⟨.error e, c, []⟩ := by
  subst hd
  have hrender : c.render r.memory r.bg r.fg = .error e := by
    unfold Render.composed at hr
    split_ifs at hr with hb hf
    · cases hr
      exact render_of_background hb
    · cases hr
      exact render_of_foreground hb hf
  rw [present, Act.get_bind, hrender]
  rfl

/-- What it holds is shown, and drawn over all that was shown before. -/
theorem present_of_ok (h : Shows d c fs) {f : Frame} (hr : r.composed d = .ok f) :
    ∃ c', present r c = ⟨.ok (), c', [.frame f]⟩ ∧ Shows d c' (fs ++ [f]) := by
  obtain ⟨rfl, hlength, hwhole, hpresented, -⟩ := h
  unfold Render.composed at hr
  split_ifs at hr with hb hf
  cases hr
  let background := r.layer c.display r.bg
  let foreground := r.layer c.display r.fg
  have hbg : background.size = c.layerLength := Span.size_extract_of_not_misses hb
  have hfg : foreground.size = c.layerLength := Span.size_extract_of_not_misses hf
  have hpixels : 4 ∣ background.size := by
    rw [hbg, hlength, Nat.mul_assoc]
    exact Nat.dvd_mul_right 4 _
  have hover := Blend.compose_eq_overlay (hfg.trans hbg.symm) (hwhole.output.trans hbg.symm)
    hpixels
  have hframe : (c.draw background foreground).frame =
      ⟨c.display.width, c.display.height, Blend.overlay background foreground⟩ := by
    rw [← hover]
    rfl
  refine ⟨c.draw background foreground, ?_, rfl, hlength, hwhole.draw hbg hfg, ?_, ?_⟩
  · have hrender : c.render r.memory r.bg r.fg = .ok (c.draw background foreground) :=
      render_of_not_misses hb hf
    rw [present, Act.get_bind, hrender, ← hframe]
    rfl
  · rw [List.length_append, ← hpresented]
    rfl
  · rw [hframe, List.getLastD_concat]

theorem presentAll_cons (r : Render) (rest : List Render) (c : Compositor) :
    presentAll (r :: rest) c = ⟨(presentAll rest (present r c).state).result,
      (presentAll rest (present r c).state).state,
      (present r c).trace ++ (presentAll rest (present r c).state).trace⟩ := rfl

/-- By induction on the renders: each of them finds a compositor that shows what all before it have
presented. -/
theorem shows_presentAll (rs : List Render) (h : Shows d c fs) :
    frames (presentAll rs c).trace = rs.filterMap (fun r => (r.composed d).toOption) ∧
      Shows d (presentAll rs c).state (fs ++ frames (presentAll rs c).trace) := by
  induction rs generalizing c fs with
  | nil =>
    have hnone : fs ++ frames (presentAll [] c).trace = fs := List.append_nil fs
    rw [hnone]
    exact ⟨rfl, h⟩
  | cons r rest ih =>
    cases hr : r.composed d with
    | error e =>
      obtain ⟨hframes, hshows⟩ := ih h
      simp only [presentAll_cons, present_of_error h.display hr, List.nil_append,
        List.filterMap_cons, hr, Except.toOption]
      exact ⟨hframes, hshows⟩
    | ok f =>
      obtain ⟨c', hpresent, hshown⟩ := present_of_ok h hr
      obtain ⟨hframes, hshows⟩ := ih hshown
      rw [hframes] at hshows
      simp only [presentAll_cons, hpresent, List.singleton_append, frames_frame,
        List.filterMap_cons, hr, Except.toOption, hframes, true_and]
      rw [List.append_cons]
      exact hshows

/-- A compositor for this display accounts for all that its sink receives, through every run of
renders. -/
structure Accountable (d : Config.Display) : Prop where
  frames : ∀ rs, frames (presentAll rs { display := d }).trace =
    rs.filterMap fun r => (r.composed d).toOption
  shows : ∀ rs, Shows d (presentAll rs { display := d }).state
    (GuestHost.frames (presentAll rs { display := d }).trace)
  succeeds : ∀ rs r f, r.composed d = .ok f → ∃ c',
    present r (presentAll rs { display := d }).state = ⟨.ok (), c', [.frame f]⟩
  fails : ∀ rs r e, r.composed d = .error e →
    present r (presentAll rs { display := d }).state =
      ⟨.error e, (presentAll rs { display := d }).state, []⟩
  composed : ∀ r : Render, r.memory.size < Word.bound → r.composed d = r.due d

theorem accountable (h : d.layerLength?.isSome = true) : Accountable d := by
  have hrun := fun rs => shows_presentAll rs (shows_blank h)
  refine ⟨fun rs => (hrun rs).1, fun rs => (hrun rs).2, ?_, ?_, fun _ => Render.composed_eq_due h⟩
  · intro rs r f hr
    obtain ⟨c', hc', -⟩ := present_of_ok (hrun rs).2 hr
    exact ⟨c', hc'⟩
  · intro rs r e hr
    exact present_of_error (hrun rs).2.display hr

end Compositor

end GuestHost
