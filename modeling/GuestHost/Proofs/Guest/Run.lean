import GuestHost.Machine
import GuestHost.Proofs.Act

/-! Runs of guest code. What each step keeps, a run of any length keeps. -/
namespace GuestHost

/-- What guest code can make its host show. -/
def Output.fromGuest : Output → Bool
  | .line _ => true
  | .frame _ => true
  | _ => false

/-- What the host says on its own account. -/
def Output.fromHost : Output → Bool
  | .note _ => true
  | .reply _ => true
  | _ => false

namespace Machine

/-- A relation that every single step of guest code keeps. -/
structure Kept (R : Machine → List Output → Machine → Prop) : Prop extends Act.Law R where
  grow : ∀ {m delta memory}, m.memory.grow? delta = some memory → R m [] { m with memory }
  store : ∀ {m addr bytes memory}, m.memory.store? addr bytes = some memory →
    R m [] { m with memory }
  fill : ∀ {m addr byte len memory}, m.memory.fill? addr byte len = some memory →
    R m [] { m with memory }
  setGlobal : ∀ m globals, R m [] { m with globals }
  answer : ∀ caller c, Act.Keeps R (answer caller c)

end Machine

variable {α : Type} {R : Machine → List Output → Machine → Prop} {caller : Caller}

/-- By induction on the code: after its first step the rest is shorter code. -/
theorem Code.keeps_run (h : Machine.Kept R) (code : Code α) :
    Act.Keeps R (code.run caller) := by
  induction code with
  | ret a => exact h.refl
  | trap t => exact h.refl
  | pages next ih => exact fun m => ih _ m
  | grow delta next ih =>
    intro m
    cases hm : m.memory.grow? delta.toNat with
    | none => simpa only [Code.run, hm] using ih noPages m
    | some memory =>
      simpa only [Code.run, hm, List.nil_append] using h.trans (h.grow hm) (ih _ { m with memory })
  | load addr len next ih =>
    intro m
    cases hm : m.memory.load? addr len with
    | none => simpa only [Code.run, hm] using h.refl m
    | some bytes => simpa only [Code.run, hm] using ih bytes m
  | store addr bytes next ih =>
    intro m
    cases hm : m.memory.store? addr bytes with
    | none => simpa only [Code.run, hm] using h.refl m
    | some memory =>
      simpa only [Code.run, hm, List.nil_append] using h.trans (h.store hm) (ih { m with memory })
  | fill addr byte len next ih =>
    intro m
    cases hm : m.memory.fill? addr byte len with
    | none => simpa only [Code.run, hm] using h.refl m
    | some memory =>
      simpa only [Code.run, hm, List.nil_append] using h.trans (h.fill hm) (ih { m with memory })
  | global i next ih => exact fun m => ih _ m
  | setGlobal i v next ih => exact fun m => h.trans (h.setGlobal m _) (ih _)
  | host c next ih =>
    intro m
    have hc := h.answer caller c m
    rcases hm : Machine.answer caller c m with ⟨_ | _, m', t⟩
    · rw [hm] at hc
      simpa only [Code.run, hm] using hc
    · rw [hm] at hc
      simpa only [Code.run, hm] using h.trans hc (ih m')

namespace Machine

/-- What a guest cannot change of its host, and all that it can bring into the open. -/
structure Held (m : Machine) (t : List Output) (m' : Machine) : Prop where
  exported : m'.exported = m.exported
  display : m'.compositor.display = m.compositor.display
  clock : m'.clock = m.clock
  shown : ∀ o ∈ t, o.fromGuest = true

theorem held_law : Act.Law Held where
  refl _ := ⟨rfl, rfl, rfl, by simp⟩
  trans h h' := {
    exported := h'.exported.trans h.exported
    display := h'.display.trans h.display
    clock := h'.clock.trans h.clock
    shown := fun o ho => (List.mem_append.mp ho).elim (h.shown o) (h'.shown o) }

theorem held_of_memory (m : Machine) (memory : Memory) : Held m [] { m with memory } :=
  ⟨rfl, rfl, rfl, by simp⟩

theorem held_of_console (m : Machine) (console : Console) (lines : List String) :
    Held m (lines.map .line) { m with console } where
  exported := rfl
  display := rfl
  clock := rfl
  shown o ho := by
    obtain ⟨text, -, rfl⟩ := List.mem_map.mp ho
    rfl

theorem keeps_flushConsole : Act.Keeps Held (flushConsole : Act Error Machine Unit) :=
  fun m => held_of_console m _ _

theorem keeps_exportedMemory : Act.Keeps Held (exportedMemory caller) :=
  held_law.refl

theorem keeps_printStr (ptr : UInt32) : Act.Keeps Held (printStr caller ptr) := by
  refine .bind held_law keeps_exportedMemory fun memory => ?_
  refine .bind held_law (.ofExcept held_law _) fun text m => ?_
  exact held_of_console m _ _

theorem display_of_render {c c' : Compositor} {memory : ByteArray} {bg fg : UInt32}
    (h : c.render memory bg fg = .ok c') : c'.display = c.display := by
  unfold Compositor.render at h
  cases hb : Span.within memory.size bg c.layerLength with
  | error e => rw [hb] at h; cases h
  | ok back =>
    cases hf : Span.within memory.size fg c.layerLength with
    | error e => rw [hb, hf] at h; cases h
    | ok front =>
      rw [hb, hf] at h
      cases h
      rfl

theorem keeps_render (bg fg : UInt32) : Act.Keeps Held (render caller bg fg) := by
  refine .bind held_law keeps_exportedMemory fun memory m => ?_
  rw [Act.get_bind]
  cases hc : m.compositor.render memory.bytes bg fg with
  | error e => exact held_law.refl m
  | ok c => exact ⟨rfl, display_of_render hc, rfl, by simp [Act.emit, Output.fromGuest]⟩

theorem keeps_getDateTime (out : UInt32) : Act.Keeps Held (getDateTime caller out) := by
  refine .bind held_law (fun m => ⟨rfl, rfl, rfl, by simp [now]⟩) fun t => ?_
  refine .bind held_law keeps_exportedMemory fun memory => ?_
  exact .bind held_law (.ofExcept held_law _) fun memory m => held_of_memory m memory

theorem held_kept : Kept Held where
  toLaw := held_law
  grow _ := held_of_memory _ _
  store _ := held_of_memory _ _
  fill _ := held_of_memory _ _
  setGlobal _ _ := ⟨rfl, rfl, rfl, by simp⟩
  answer caller c := by
    cases c with
    | printChar code => exact fun m => held_of_console m _ _
    | printStr ptr => exact keeps_printStr ptr
    | render bg fg => exact keeps_render bg fg
    | getDateTime out => exact keeps_getDateTime out

end Machine

theorem Code.held_of_run {code : Code α} {m m' : Machine} {r : Except Stop α} {t : List Output}
    (h : code.run caller m = ⟨r, m', t⟩) : m.Held t m' := by
  have hheld : m.Held (code.run caller m).trace (code.run caller m).state :=
    keeps_run Machine.held_kept code m
  rwa [h] at hheld

namespace Routine

theorem keeps_run (h : Machine.Kept R) (r : Routine α) : Act.Keeps R r.run :=
  Code.keeps_run h r.code

theorem held_of_run {r : Routine α} {m m' : Machine} {x : Except Stop α} {t : List Output}
    (h : r.run m = ⟨x, m', t⟩) : m.Held t m' :=
  Code.held_of_run h

end Routine

end GuestHost
