import GuestHost.Input.Gamepad
import GuestHost.Input.Key
import Mathlib.Tactic.SplitIfs

/-! Masks as the sets of modifiers whose bits they have. -/
namespace GuestHost

namespace Modifier

/-- The mask has the bit of the modifier. -/
def In (k : Modifier) (m : UInt8) : Prop :=
  m &&& k.bit ≠ 0

variable {k k' : Modifier} {m m' : UInt8}

def index : Modifier → Nat
  | ctrl => 0
  | alt => 1
  | shift => 2
  | escape => 3
  | up => 4
  | down => 5
  | left => 6
  | right => 7

theorem index_lt (k : Modifier) : k.index < 8 := by
  cases k <;> decide

theorem exists_index {i : Nat} (h : i < 8) : ∃ k : Modifier, k.index = i := by
  have hall : ∀ i < 8, ∃ k ∈ all, k.index = i := by decide
  obtain ⟨k, -, hk⟩ := hall i h
  exact ⟨k, hk⟩

theorem index_inj (h : k.index = k'.index) : k = k' := by
  cases k <;> cases k' <;> first | rfl | cases h

theorem toBitVec_bit (k : Modifier) : k.bit.toBitVec = BitVec.twoPow 8 k.index := by
  cases k <;> decide

theorem in_iff_getLsbD : k.In m ↔ m.toBitVec.getLsbD k.index = true := by
  rw [In, ne_eq, ← UInt8.toBitVec_inj, UInt8.toBitVec_and, toBitVec_bit, BitVec.and_twoPow]
  have hbit : BitVec.twoPow 8 k.index ≠ 0#8 := by cases k <;> decide
  split
  · next h => simp [h, hbit]
  · next h => simp [h]

theorem not_in_zero (k : Modifier) : ¬k.In 0 := by
  simp [In]

theorem in_or : k.In (m ||| m') ↔ k.In m ∨ k.In m' := by
  simp [in_iff_getLsbD]

theorem in_bit : k.In k'.bit ↔ k = k' := by
  rw [in_iff_getLsbD, toBitVec_bit, BitVec.getLsbD_twoPow]
  constructor
  · intro h
    exact index_inj (by simpa [eq_comm] using (Bool.and_eq_true_iff.mp h).2)
  · rintro rfl
    simp [index_lt]

theorem in_and_not : k.In (m &&& ~~~m') ↔ k.In m ∧ ¬k.In m' := by
  simp [in_iff_getLsbD, index_lt]

/-- A mask is known by the modifiers in it. -/
theorem mask_ext (h : ∀ k : Modifier, k.In m ↔ k.In m') : m = m' := by
  rw [← UInt8.toBitVec_inj]
  apply BitVec.eq_of_getLsbD_eq
  intro i hi
  obtain ⟨k, rfl⟩ := exists_index hi
  exact Bool.eq_iff_iff.mpr (in_iff_getLsbD.symm.trans ((h k).trans in_iff_getLsbD))

open Classical in
/-- The union of the bits of the modifiers in `p`. -/
noncomputable def union (p : Modifier → Prop) : UInt8 :=
  (all.filter p).foldl (fun m k => m ||| k.bit) 0

theorem in_foldl {l : List Modifier} :
    k.In (l.foldl (fun m k => m ||| k.bit) m) ↔ k.In m ∨ k ∈ l := by
  induction l generalizing m with
  | nil => simp
  | cons k' rest ih => rw [List.foldl_cons, ih, in_or, in_bit, or_assoc, List.mem_cons]

theorem in_union {p : Modifier → Prop} : k.In (union p) ↔ p k := by
  have hall : k ∈ all := by cases k <;> decide
  rw [union, in_foldl]
  simp [not_in_zero, hall]

theorem eq_union {p : Modifier → Prop} (h : ∀ k : Modifier, k.In m ↔ p k) :
    m = union p :=
  mask_ext fun k => (h k).trans in_union.symm

end Modifier

namespace KeyEvent

variable {code : UInt32} {k : Modifier}

/-- The only key that drives a modifier. -/
def ofModifier : Modifier → UInt32
  | .ctrl => 17
  | .alt => 18
  | .shift => 16
  | .escape => 27
  | .up => 38
  | .down => 40
  | .left => 37
  | .right => 39

theorem modifier?_eq_some_iff : modifier? code = some k ↔ code = ofModifier k := by
  constructor
  · intro h
    unfold modifier? at h
    split_ifs at h <;> cases h <;> rw [ofModifier] <;> assumption
  · rintro rfl
    cases k <;> decide

theorem bit_of_some (h : modifier? code = some k) : bit code = k.bit := by
  rw [bit, h]
  rfl

theorem bit_of_none (h : modifier? code = none) : bit code = 0 := by
  rw [bit, h]
  rfl

theorem in_bit_iff : k.In (bit code) ↔ modifier? code = some k := by
  cases h : modifier? code with
  | none =>
    rw [bit_of_none h]
    simp [Modifier.not_in_zero]
  | some k' =>
    rw [bit_of_some h, Modifier.in_bit, eq_comm, Option.some_inj]

theorem bit_eq_zero_iff : bit code = 0 ↔ modifier? code = none := by
  constructor
  · intro h
    cases hk : modifier? code with
    | none => rfl
    | some k => exact absurd (h ▸ in_bit_iff.mpr hk) (Modifier.not_in_zero k)
  · exact bit_of_none

end KeyEvent

/-- The mask of a gamepad has what its pressed buttons drive. -/
theorem Gamepads.in_mask {pads : Gamepads} {index : UInt32} {k : Modifier} :
    k.In (pads.mask index) ↔ ∃ button, (button, k) ∈ buttons ∧ pads index button = true := by
  have hmask : pads.mask index = ((buttons.filter fun p => pads index p.1).map Prod.snd).foldl
      (fun m k => m ||| k.bit) 0 := by
    rw [List.foldl_map]
    rfl
  rw [hmask, Modifier.in_foldl]
  simp [Modifier.not_in_zero]

end GuestHost
