import GuestHost.Proofs.Course
import GuestHost.Proofs.Session.Operation
import Mathlib.Tactic.SplitIfs

/-! Where sessions come from: settings without a defect, an image, and a guest whose memory the
host can find. -/
namespace GuestHost

variable {σ : Type} {st : σ} {display : Config.Display} {clock : Clock}

theorem Config.defect?_of_validate {config : Config} (h : config.validate = .ok ()) :
    config.defect? = none := by
  unfold validate at h
  cases hd : config.defect? with
  | none => rfl
  | some d =>
    rw [hd] at h
    cases h

theorem Config.fits_of_defect? {config : Config} (h : config.defect? = none) :
    config.display.fits = true := by
  cases hf : config.display.fits with
  | true => rfl
  | false =>
    simp only [defect?, hf, Bool.not_false, if_true] at h
    split_ifs at h

theorem Config.Display.isSome_of_fits {d : Config.Display} (h : d.fits = true) :
    d.layerLength?.isSome = true := by
  unfold fits at h
  cases hl : d.layerLength? with
  | none =>
    rw [hl] at h
    cases h
  | some n => rfl

theorem runStart_ok {code : Code Unit} {m m' : Machine} {st' : σ} {t : List Output}
    (h : runStart code m st = ⟨.ok m', st', t⟩) : code.run .guest m = ⟨.ok (), m', t⟩ := by
  unfold runStart at h
  rcases hrun : code.run .guest m with ⟨stop | _, m₁, t₁⟩ <;> rw [hrun] at h
  · cases stop <;> cases h
  · cases h
    rfl

namespace Guest

/-- The guest finds its data in memory, and its start goes well and leaves `m` and `t`. -/
def Module.Starts (guest : Module) (display : Config.Display) (clock : Clock) (m : Machine)
    (t : List Output) : Prop :=
  ∃ memory, writeSegments guest.blankMemory guest.data = some memory ∧
    (guest.start.getD (.ret ())).run .guest (.ofModule guest memory display clock) =
      ⟨.ok (), m, t⟩

theorem Module.instantiate_ok {guest : Module} {i : Instance} {st' : σ} {t : List Output}
    (h : guest.instantiate display clock st = ⟨.ok i, st', t⟩) :
    guest.Starts display clock i.machine t ∧ i.exports = guest.exports := by
  unfold instantiate at h
  split at h
  · cases h
  · cases hw : writeSegments guest.blankMemory guest.data with
    | none =>
      rw [hw] at h
      cases h
    | some memory =>
      rw [hw] at h
      obtain ⟨machine, st₁, t₀, t₁, hrun, hlast, rfl⟩ := Act.parts_of_bind h
      cases hlast
      rw [List.append_nil]
      exact ⟨⟨memory, hw, runStart_ok hrun⟩, rfl⟩

theorem Module.Starts.instantiate {guest : Module} {m : Machine} {t : List Output}
    (h : guest.Starts display clock m t) (hi : ∀ i ∈ guest.imports, i ∈ hostImports) (st : σ) :
    guest.instantiate display clock st =
      (⟨.ok ⟨m, guest.exports⟩, st, t⟩ : Outcome Error σ Instance) := by
  obtain ⟨memory, hmemory, hrun⟩ := h
  have hknown : ¬guest.imports.any (· ∉ hostImports) = true := by simpa using hi
  have hstart : runStart (guest.start.getD (.ret ())) (.ofModule guest memory display clock) st =
      (⟨.ok m, st, t⟩ : Outcome Error σ Machine) := by
    rw [runStart, hrun]
  unfold Module.instantiate
  rw [if_neg hknown, hmemory]
  exact (Act.bind_pure_apply _ _ st).trans (by rw [hstart]; rfl)

/-- Nothing comes out but what the host has to say. -/
def Noted (_ : σ) (t : List Output) (_ : σ) : Prop :=
  ∀ o ∈ t, o.fromHost = true

namespace Noted

theorem law : Act.Law (@Noted σ) where
  refl _ := List.forall_mem_nil _
  trans h h' o ho := (List.mem_append.mp ho).elim (h o) (h' o)

variable {α : Type} (e : Entry)

theorem required (found : Option α) :
    Act.Keeps Noted (required e found : Act Error σ α) := by
  cases found with
  | none => exact .fail law _
  | some a => exact .pure law a

theorem feature (found : Option α) :
    Act.Keeps Noted (feature e found : Act Error σ (Option α)) := by
  intro st
  cases found with
  | none => exact List.forall_mem_singleton.mpr rfl
  | some a => exact law.refl st

/-- Of the entry points that a guest lacks the host makes a note. -/
theorem entrypoints (exports : Exports) :
    Act.Keeps Noted (exports.entrypoints : Act Error σ Entrypoints) := by
  refine .bind law (feature _ _) fun _ => .bind law (required _ _) fun _ => ?_
  refine .bind law (feature _ _) fun _ => .bind law (required _ _) fun _ => ?_
  refine .bind law (feature _ _) fun _ => .bind law (feature _ _) fun _ => ?_
  refine .bind law (required _ _) fun _ => .bind law (feature _ _) fun _ => ?_
  refine .bind law (feature _ _) fun _ => .bind law (feature _ _) fun _ => ?_
  exact .pure law _

end Noted

end Guest

theorem Vm.ofModule_ok {guest : Guest.Module} {vm : Vm} {st' : σ} {t : List Output}
    (h : ofModule guest display clock st = ⟨.ok vm, st', t⟩) :
    vm.faulted = false ∧ vm.machine.exported = true ∧
      Guest.Exports.Resolves guest.exports vm.entry ∧
        ∃ t₀ t₁, guest.Starts display clock vm.machine t₀ ∧ t = t₀ ++ t₁ ∧
          ∀ o ∈ t₁, o.fromHost = true := by
  obtain ⟨i, st₁, t₀, t₁, hi, hrest, rfl⟩ := Act.parts_of_bind h
  cases he : i.machine.exported with
  | false =>
    rw [he] at hrest
    cases hrest
  | true =>
    obtain ⟨hstarts, hexports⟩ := Guest.Module.instantiate_ok hi
    rw [he, hexports] at hrest
    have hnotes := Guest.Noted.entrypoints guest.exports st₁
    obtain ⟨entry, st₂, t₂, t₃, hentry, hlast, rfl⟩ := Act.parts_of_bind hrest
    rw [hentry] at hnotes
    cases hlast
    rw [List.append_nil]
    exact ⟨rfl, he, Guest.entrypoints_ok hentry, t₀, t₂, hstarts, rfl, hnotes⟩

/-- A guest that starts well and whose memory and entry points are found is ready. -/
theorem Vm.ofModule_of_starts {guest : Guest.Module} {m : Machine} {entry : Guest.Entrypoints}
    {t t' : List Output} (h : guest.Starts display clock m t) (hm : m.exported = true)
    (hi : ∀ i ∈ guest.imports, i ∈ Guest.hostImports)
    (he : Guest.Exports.entrypoints guest.exports st = ⟨.ok entry, st, t'⟩) :
    ofModule guest display clock st = ⟨.ok { machine := m, entry }, st, t ++ t'⟩ := by
  rw [ofModule, Act.bind_of_ok (h.instantiate hi st)]
  simp only [hm, Bool.not_true, Bool.false_eq_true, if_false]
  rw [Act.bind_of_ok he]
  change (⟨_, _, t ++ (t' ++ [])⟩ : Outcome _ _ _) = _
  rw [List.append_nil]
  rfl

namespace Session

variable {s : Session}

theorem create_of_ok {read : Container.Assembler} {engine : Guest.Engine} {config : Config}
    {code rom : ByteArray} {surroundings : Surroundings} {guest : Guest.Module} {vm : Vm} {st' : σ}
    {t : List Output} (hv : config.validate = .ok ()) (hr : rom.size ≠ 0)
    (hl : engine.load read code = .ok guest)
    (hvm : Vm.ofModule guest config.display surroundings.clock st = ⟨.ok vm, st', t⟩) :
    create read engine config code rom surroundings st = ⟨.ok {
      config, vm, rom
      input := { display := config.display }
      audio := .ofDevice surroundings.device }, st',
      t ++ [.note (.instantiated config.display.width config.display.height rom.size)]⟩ := by
  unfold create
  simp only [hv, if_neg hr, hl]
  exact Act.bind_of_ok hvm

/-- What every new session has. -/
structure Made (s : Session) : Prop where
  config : s.config.defect? = none
  rom : s.rom.size ≠ 0
  faulted : s.vm.faulted = false
  hosts : ∃ exports, s.vm.Hosts exports
  machine : ∃ guest memory clock, ∃ code : Code Unit,
    s.vm.machine = (code.run .guest (Machine.ofModule guest memory s.config.display clock)).state

theorem Created.made (h : s.Created) : s.Made := by
  obtain ⟨read, engine, config, code, rom, surroundings, h⟩ := h
  obtain ⟨hv, hr, guest, vm, t₀, -, hvm, -, rfl⟩ := create_ok (Act.eq_of_result h)
  obtain ⟨hf, he, hentry, t₁, -, ⟨memory, -, hrun⟩, -⟩ := Vm.ofModule_ok hvm
  refine ⟨Config.defect?_of_validate hv, hr, hf, ⟨guest.exports, he, hentry⟩, guest, memory,
    surroundings.clock, guest.start.getD (.ret ()), ?_⟩
  rw [hrun]

end Session

end GuestHost
