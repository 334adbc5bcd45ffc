import GuestHost.Audio.Wakeup

/-! Attempts to wake a device, one for each gesture up to the first that is not refused. -/
namespace GuestHost.Wakeup

variable {device : Option AudioDevice} {r : Wakeup} {i j n : Nat}

/-- There is a device, and it refuses every attempt before this one. -/
def Due (device : Option AudioDevice) (attempt : Nat) : Prop :=
  ∃ d, device = some d ∧ ∀ i < attempt, d.refusal i ≠ none

/-- After so many gestures. An attempt has been made if there was a gesture for it and all attempts
before it were refused; another one is pending while all that were made were refused. -/
structure After (device : Option AudioDevice) (gestures : Nat) (r : Wakeup) : Prop where
  device_eq : r.device = device
  attempts : ∀ i, i < r.attempts ↔ i < gestures ∧ Due device i
  pending : r.pending = true ↔ Due device r.attempts

theorem Due.of_le (h : Due device j) (hij : i ≤ j) : Due device i := by
  obtain ⟨d, hd, hrefused⟩ := h
  exact ⟨d, hd, fun k hk => hrefused k (Nat.lt_of_lt_of_le hk hij)⟩

theorem due_succ {d : AudioDevice} :
    Due (some d) (n + 1) ↔ Due (some d) n ∧ d.refusal n ≠ none := by
  constructor
  · intro h
    refine ⟨h.of_le (Nat.le_succ n), ?_⟩
    obtain ⟨_, ⟨⟩, hrefused⟩ := h
    exact hrefused n (Nat.lt_succ_self n)
  · rintro ⟨⟨_, ⟨⟩, hrefused⟩, hlast⟩
    refine ⟨d, rfl, fun i hi => ?_⟩
    rcases Nat.lt_succ_iff_lt_or_eq.mp hi with hlt | rfl
    · exact hrefused i hlt
    · exact hlast

theorem gesture_of_not_pending (h : r.pending = false) : r.gesture = (r, none) := by
  rw [gesture, h]
  rfl

section Pending

variable {d : AudioDevice} (h : r.pending = true) (hd : r.device = some d)
include h hd

theorem gesture_of_resumed (hr : d.refusal r.attempts = none) :
    r.gesture = ({ r with pending := false, attempts := r.attempts + 1 }, some .resumed) := by
  simp only [gesture, h, hd, hr, Bool.not_true, Bool.false_eq_true, if_false]

theorem gesture_of_refused {causes : List String} (hr : d.refusal r.attempts = some causes) :
    r.gesture = ({ r with attempts := r.attempts + 1 }, some (.refused causes)) := by
  simp only [gesture, h, hd, hr, Bool.not_true, Bool.false_eq_true, if_false]

end Pending

theorem after_ofDevice (device : Option AudioDevice) : After device 0 (.ofDevice device) where
  device_eq := rfl
  attempts i := iff_of_false (Nat.not_lt_zero i) fun h => Nat.not_lt_zero i h.1
  pending := by
    cases device with
    | none => exact iff_of_false nofun fun ⟨d, hd, _⟩ => nomatch hd
    | some d => exact iff_of_true rfl ⟨d, rfl, fun i hi => absurd hi (Nat.not_lt_zero i)⟩

namespace After

variable (h : After device n r)
include h

theorem attempts_le : r.attempts ≤ n :=
  Nat.le_of_not_lt fun hlt => Nat.lt_irrefl n ((h.attempts n).mp hlt).1

/-- As long as a device has not been woken, no gesture goes unused. -/
theorem attempts_of_pending (hp : r.pending = true) : r.attempts = n := by
  refine Nat.le_antisymm h.attempts_le (Nat.le_of_not_lt fun hlt => ?_)
  exact Nat.lt_irrefl _ ((h.attempts r.attempts).mpr ⟨hlt, h.pending.mp hp⟩)

theorem device_of_pending (hp : r.pending = true) : ∃ d, device = some d ∧ r.device = some d := by
  obtain ⟨d, hd, -⟩ := h.pending.mp hp
  exact ⟨d, hd, h.device_eq.trans hd⟩

/-- An attempt is made at once, for a gesture that is waited for and for no other. -/
theorem attempts_gesture :
    r.gesture.1.attempts = r.attempts + if r.pending = true then 1 else 0 := by
  by_cases hp : r.pending = true
  · rw [if_pos hp]
    obtain ⟨d, -, hd⟩ := h.device_of_pending hp
    cases hr : d.refusal r.attempts with
    | none => rw [gesture_of_resumed hp hd hr]
    | some causes => rw [gesture_of_refused hp hd hr]
  · rw [if_neg hp, gesture_of_not_pending (Bool.eq_false_iff.mpr hp), Nat.add_zero]

theorem gesture : After device (n + 1) r.gesture.1 := by
  by_cases hp : r.pending = true
  · have hdue := h.pending.mp hp
    have hn := h.attempts_of_pending hp
    have hattempts : r.gesture.1.attempts = n + 1 := by
      rw [h.attempts_gesture, if_pos hp, hn]
    have hall : ∀ i, i < n + 1 ↔ i < n + 1 ∧ Due device i := fun i =>
      ⟨fun hi => ⟨hi, hdue.of_le (by omega)⟩, And.left⟩
    obtain ⟨d, rfl, hd⟩ := h.device_of_pending hp
    cases hr : d.refusal r.attempts with
    | none =>
      rw [gesture_of_resumed hp hd hr] at hattempts ⊢
      refine ⟨h.device_eq, hattempts ▸ hall, iff_of_false nofun fun hdue' => ?_⟩
      exact (due_succ.mp hdue').2 hr
    | some causes =>
      rw [gesture_of_refused hp hd hr] at hattempts ⊢
      refine ⟨h.device_eq, hattempts ▸ hall, iff_of_true hp (due_succ.mpr ⟨hdue, ?_⟩)⟩
      rw [hr]
      exact Option.some_ne_none causes
  · rw [gesture_of_not_pending (Bool.eq_false_iff.mpr hp)]
    refine ⟨h.device_eq, fun i => ?_, h.pending⟩
    rw [h.attempts]
    refine ⟨fun ⟨hi, hdue⟩ => ⟨Nat.lt_succ_of_lt hi, hdue⟩, fun ⟨hi, hdue⟩ => ⟨?_, hdue⟩⟩
    -- Were an attempt due for the last gesture, one would still be pending.
    refine Nat.lt_of_not_le fun hle => hp (h.pending.mpr (hdue.of_le ?_))
    exact Nat.le_trans h.attempts_le hle

theorem gestureIf (b : Bool) :
    After device (n + if b then 1 else 0) (if b then r.gesture.1 else r) := by
  cases b with
  | true => exact h.gesture
  | false => exact h

end After

end GuestHost.Wakeup
