import GuestHost.Input.Arbiter
import GuestHost.Proofs.Input.Modifier
import Mathlib.Data.List.Induction

/-! What the arbiter holds, told from the history of what happened to it: which keys went down last,
which gamepad was bound last, and what the last poll saw. -/
namespace GuestHost

/-- What can happen to an arbiter. -/
inductive InputStep where
  | key (e : KeyEvent)
  | connect (index : UInt32) (standard : Bool)
  | disconnect (index : UInt32)
  | poll (pads : Gamepads)
  | reset

namespace InputStep

def act : InputStep → Arbiter → Arbiter
  | key e, a => (a.keyboard e).1
  | connect index standard, a => (a.connect index standard).1
  | disconnect index, a => a.disconnect index
  | poll pads, a => (a.poll pads).1
  | reset, a => a.reset

/-- After `before` came `x`, and nothing else of the kind `p` came later. -/
def Last (p : InputStep → Prop) (steps before : List InputStep) (x : InputStep) : Prop :=
  p x ∧ ∃ later, steps = before ++ x :: later ∧ ∀ y ∈ later, ¬p y

theorem not_last_nil {p : InputStep → Prop} {before : List InputStep} {x : InputStep} :
    ¬Last p [] before x := by
  rintro ⟨-, later, h, -⟩
  simp at h

theorem last_append_singleton {p : InputStep → Prop} {steps before : List InputStep}
    {x y : InputStep} : Last p (steps ++ [y]) before x ↔
      (p y ∧ x = y ∧ before = steps) ∨ (¬p y ∧ Last p steps before x) := by
  constructor
  · rintro ⟨hx, later, hsteps, hlater⟩
    rcases List.eq_nil_or_concat later with rfl | ⟨rest, z, rfl⟩
    · obtain ⟨rfl, hyx⟩ := List.append_inj' hsteps rfl
      cases hyx
      exact .inl ⟨hx, rfl, rfl⟩
    · have hsplit : steps ++ [y] = (before ++ x :: rest) ++ [z] := by simpa using hsteps
      obtain ⟨rfl, hyz⟩ := List.append_inj' hsplit rfl
      cases hyz
      refine .inr ⟨hlater y (by simp), hx, rest, rfl, fun w hw => hlater w (by simp [hw])⟩
  · rintro (⟨hy, rfl, rfl⟩ | ⟨hy, hx, later, rfl, hlater⟩)
    · exact ⟨hy, [], rfl, by simp⟩
    · refine ⟨hx, later ++ [y], by simp, fun w hw => ?_⟩
      rcases List.mem_append.mp hw with hw | hw
      · exact hlater w hw
      · rwa [List.mem_singleton.mp hw]

/-- The last event of the key since the last reset was its going down. -/
def Held (steps : List InputStep) (code : UInt32) : Prop :=
  ∃ before e, e.code = code ∧ e.state = .down ∧
    Last (fun y => y = reset ∨ ∃ e, y = key e ∧ e.code = code) steps before (key e)

/-- The gamepad was the last one of the standard layout to come, and has not gone since. -/
def Bound (steps : List InputStep) (index : UInt32) : Prop :=
  ∃ before, Last (fun y => y = disconnect index ∨ ∃ i, y = connect i true) steps before
    (connect index true)

/-- The last poll since the last reset found this gamepad bound. -/
def Polled (steps : List InputStep) (pads : Gamepads) (index : UInt32) : Prop :=
  ∃ before, Last (fun y => y = reset ∨ ∃ pads, y = poll pads) steps before (poll pads) ∧
    Bound before index

variable {steps : List InputStep} {code index : UInt32} {pads : Gamepads}

theorem held_key {e : KeyEvent} : Held (steps ++ [key e]) code ↔
    (e.code = code ∧ e.state = .down) ∨ (e.code ≠ code ∧ Held steps code) := by
  simp only [Held, last_append_singleton]
  constructor
  · rintro ⟨before, e', hcode, hdown, ⟨-, he, -⟩ | ⟨hkind, hlast⟩⟩
    · cases he
      exact .inl ⟨hcode, hdown⟩
    · exact .inr ⟨fun h => hkind (.inr ⟨e, rfl, h⟩), before, e', hcode, hdown, hlast⟩
  · rintro (⟨hcode, hdown⟩ | ⟨hcode, before, e', hcode', hdown, hlast⟩)
    · exact ⟨steps, e, hcode, hdown, .inl ⟨.inr ⟨e, rfl, hcode⟩, rfl, rfl⟩⟩
    · refine ⟨before, e', hcode', hdown, .inr ⟨?_, hlast⟩⟩
      rintro (h | ⟨e'', h, hcode''⟩) <;> cases h
      exact hcode hcode''

theorem not_held_reset : ¬Held (steps ++ [reset]) code := by
  simp only [Held, last_append_singleton]
  rintro ⟨before, e, -, -, ⟨-, he, -⟩ | ⟨hkind, -⟩⟩
  · cases he
  · exact hkind (.inl trivial)

theorem held_other {y : InputStep} (hk : ∀ e, y ≠ key e) (hr : y ≠ reset) :
    Held (steps ++ [y]) code ↔ Held steps code := by
  have hkind : ¬(y = reset ∨ ∃ e, y = key e ∧ e.code = code) := by
    rintro (h | ⟨e, h, -⟩)
    · exact hr h
    · exact hk e h
  simp only [Held, last_append_singleton, hkind, false_and, false_or, not_false_eq_true, true_and]

theorem bound_connect {i : UInt32} : Bound (steps ++ [connect i true]) index ↔ index = i := by
  simp only [Bound, last_append_singleton]
  constructor
  · rintro ⟨before, ⟨-, h, -⟩ | ⟨hkind, -⟩⟩
    · cases h
      rfl
    · exact (hkind (.inr ⟨i, rfl⟩)).elim
  · rintro rfl
    exact ⟨steps, .inl ⟨.inr ⟨index, rfl⟩, rfl, rfl⟩⟩

theorem bound_disconnect {i : UInt32} :
    Bound (steps ++ [disconnect i]) index ↔ index ≠ i ∧ Bound steps index := by
  simp only [Bound, last_append_singleton]
  constructor
  · rintro ⟨before, ⟨-, h, -⟩ | ⟨hkind, hlast⟩⟩
    · cases h
    · exact ⟨fun h => hkind (.inl (h ▸ rfl)), before, hlast⟩
  · rintro ⟨hne, before, hlast⟩
    refine ⟨before, .inr ⟨?_, hlast⟩⟩
    rintro (h | ⟨j, h⟩) <;> cases h
    exact hne rfl

theorem bound_other {y : InputStep} (hc : ∀ i, y ≠ connect i true) (hd : ∀ i, y ≠ disconnect i) :
    Bound (steps ++ [y]) index ↔ Bound steps index := by
  have hkind : ¬(y = disconnect index ∨ ∃ i, y = connect i true) := by
    rintro (h | ⟨i, h⟩)
    · exact hd index h
    · exact hc i h
  simp only [Bound, last_append_singleton, hkind, false_and, false_or, not_false_eq_true, true_and]

theorem polled_poll {pads' : Gamepads} : Polled (steps ++ [poll pads']) pads index ↔
    pads = pads' ∧ Bound steps index := by
  simp only [Polled, last_append_singleton]
  constructor
  · rintro ⟨before, ⟨-, h, rfl⟩ | ⟨hkind, -⟩, hbound⟩
    · cases h
      exact ⟨rfl, hbound⟩
    · exact (hkind (.inr ⟨pads', rfl⟩)).elim
  · rintro ⟨rfl, hbound⟩
    exact ⟨steps, .inl ⟨.inr ⟨pads, rfl⟩, rfl, rfl⟩, hbound⟩

theorem not_polled_reset : ¬Polled (steps ++ [reset]) pads index := by
  simp only [Polled, last_append_singleton]
  rintro ⟨before, ⟨-, h, -⟩ | ⟨hkind, -⟩, -⟩
  · cases h
  · exact hkind (.inl trivial)

theorem polled_other {y : InputStep} (hp : ∀ pads, y ≠ poll pads) (hr : y ≠ reset) :
    Polled (steps ++ [y]) pads index ↔ Polled steps pads index := by
  have hkind : ¬(y = reset ∨ ∃ pads, y = poll pads) := by
    rintro (h | ⟨pads, h⟩)
    · exact hr h
    · exact hp pads h
  simp only [Polled, last_append_singleton, hkind, false_and, false_or, not_false_eq_true, true_and]

end InputStep

namespace Arbiter

open InputStep

variable {a : Arbiter} {steps : List InputStep}

/-- What the arbiter holds is what the history says. -/
structure Reflects (a : Arbiter) (steps : List InputStep) : Prop where
  keys : ∀ k : Modifier, k.In a.keyMask ↔
    ∃ code, KeyEvent.modifier? code = some k ∧ Held steps code
  pads : ∀ k : Modifier, k.In a.padMask ↔ ∃ pads index button, Polled steps pads index ∧
    (button, k) ∈ Gamepads.buttons ∧ pads index button = true
  bound : ∀ index, a.boundPad = some index ↔ Bound steps index

theorem reflects_new (display : Config.Display) : Reflects { display } [] where
  keys k := by
    refine iff_of_false (Modifier.not_in_zero k) ?_
    rintro ⟨code, -, before, e, -, -, hlast⟩
    exact not_last_nil hlast
  pads k := by
    refine iff_of_false (Modifier.not_in_zero k) ?_
    rintro ⟨pads, index, button, ⟨before, hlast, -⟩, -⟩
    exact not_last_nil hlast
  bound index := by
    refine iff_of_false nofun ?_
    rintro ⟨before, hlast⟩
    exact not_last_nil hlast

/-- A key event sets or clears the bit of its own key and no other. -/
theorem in_keyMaskAfter {m : UInt8} {e : KeyEvent} {k : Modifier} : k.In (keyMaskAfter m e) ↔
    (KeyEvent.modifier? e.code = some k ∧ e.state = .down) ∨
      (KeyEvent.modifier? e.code ≠ some k ∧ k.In m) := by
  unfold keyMaskAfter
  by_cases hk : KeyEvent.modifier? e.code = some k <;> cases e.state <;>
    simp [Modifier.in_or, Modifier.in_and_not, KeyEvent.in_bit_iff, hk]

theorem Reflects.key (h : Reflects a steps) (e : KeyEvent) :
    Reflects (a.keyboard e).1 (steps ++ [.key e]) where
  keys k := by
    change k.In (keyMaskAfter a.keyMask e) ↔ _
    rw [in_keyMaskAfter, h.keys]
    simp only [held_key]
    constructor
    · rintro (⟨hk, hdown⟩ | ⟨hk, code, hcode, hheld⟩)
      · exact ⟨e.code, hk, .inl ⟨rfl, hdown⟩⟩
      · exact ⟨code, hcode, .inr ⟨fun he => hk (he ▸ hcode), hheld⟩⟩
    · rintro ⟨code, hcode, ⟨rfl, hdown⟩ | ⟨hne, hheld⟩⟩
      · exact .inl ⟨hcode, hdown⟩
      · refine .inr ⟨fun hk => hne ?_, code, hcode, hheld⟩
        rw [KeyEvent.modifier?_eq_some_iff.mp hk, KeyEvent.modifier?_eq_some_iff.mp hcode]
  pads k := by
    simp only [polled_other (y := .key e) nofun nofun]
    exact h.pads k
  bound index := by
    rw [bound_other (y := .key e) nofun nofun]
    exact h.bound index

theorem Reflects.connect (h : Reflects a steps) (index : UInt32) (standard : Bool) :
    Reflects (a.connect index standard).1 (steps ++ [.connect index standard]) where
  keys k := by
    simp only [held_other (y := .connect index standard) nofun nofun]
    cases standard <;> exact h.keys k
  pads k := by
    simp only [polled_other (y := .connect index standard) nofun nofun]
    cases standard <;> exact h.pads k
  bound i := by
    cases standard with
    | false =>
      rw [bound_other (y := .connect index false) (by simp) nofun]
      exact h.bound i
    | true =>
      rw [bound_connect, eq_comm]
      exact Option.some_inj

theorem Reflects.disconnect (h : Reflects a steps) (index : UInt32) :
    Reflects (a.disconnect index) (steps ++ [.disconnect index]) where
  keys k := by
    simp only [held_other (y := .disconnect index) nofun nofun, Arbiter.disconnect]
    split_ifs <;> exact h.keys k
  pads k := by
    simp only [polled_other (y := .disconnect index) nofun nofun, Arbiter.disconnect]
    split_ifs <;> exact h.pads k
  bound i := by
    rw [bound_disconnect, ← h.bound, Arbiter.disconnect]
    split_ifs with hb
    · rw [hb, Option.some_inj]
      exact iff_of_false (by simp) fun hi => hi.1 hi.2.symm
    · exact ⟨fun hi => ⟨fun he => hb (he ▸ hi), hi⟩, And.right⟩

theorem Reflects.poll (h : Reflects a steps) (pads : Gamepads) :
    Reflects (a.poll pads).1 (steps ++ [.poll pads]) := by
  have hpoll : (a.poll pads).1.keyMask = a.keyMask ∧ (a.poll pads).1.boundPad = a.boundPad ∧
      (a.poll pads).1.padMask = polledMask pads a.boundPad := by
    unfold Arbiter.poll
    dsimp only
    split_ifs <;> exact ⟨rfl, rfl, rfl⟩
  obtain ⟨hkeys, hbound, hpads⟩ := hpoll
  constructor
  · intro k
    rw [hkeys]
    simp only [held_other (y := .poll pads) nofun nofun]
    exact h.keys k
  · intro k
    rw [hpads, polledMask]
    simp only [polled_poll, ← h.bound]
    cases a.boundPad with
    | none => simp [Modifier.not_in_zero]
    | some index =>
      rw [Option.elim_some, Gamepads.in_mask]
      constructor
      · rintro ⟨button, hb, hp⟩
        exact ⟨pads, index, button, ⟨rfl, rfl⟩, hb, hp⟩
      · rintro ⟨_, _, button, ⟨rfl, hi⟩, hb, hp⟩
        cases hi
        exact ⟨button, hb, hp⟩
  · intro index
    rw [hbound, bound_other (y := .poll pads) nofun nofun]
    exact h.bound index

theorem Reflects.reset (h : Reflects a steps) : Reflects a.reset (steps ++ [.reset]) where
  keys k := by
    refine iff_of_false (Modifier.not_in_zero k) ?_
    rintro ⟨code, -, hheld⟩
    exact not_held_reset hheld
  pads k := by
    refine iff_of_false (Modifier.not_in_zero k) ?_
    rintro ⟨pads, index, button, hpolled, -⟩
    exact not_polled_reset hpolled
  bound index := by
    rw [bound_other (y := .reset) nofun nofun]
    exact h.bound index

theorem Reflects.act (h : Reflects a steps) (x : InputStep) :
    Reflects (x.act a) (steps ++ [x]) := by
  cases x with
  | key e => exact h.key e
  | connect index standard => exact h.connect index standard
  | disconnect index => exact h.disconnect index
  | poll pads => exact h.poll pads
  | reset => exact h.reset

/-- A new arbiter to which all this has happened. -/
def after (display : Config.Display) (steps : List InputStep) : Arbiter :=
  steps.foldl (fun a x => x.act a) { display }

theorem after_append_singleton (display : Config.Display) (steps : List InputStep)
    (x : InputStep) : after display (steps ++ [x]) = x.act (after display steps) := by
  rw [after, List.foldl_append]
  rfl

/-- By induction from the end of the history. -/
theorem reflects_after (display : Config.Display) (steps : List InputStep) :
    Reflects (after display steps) steps := by
  induction steps using List.reverseRecOn with
  | nil => exact reflects_new display
  | append_singleton steps x ih =>
    rw [after_append_singleton]
    exact ih.act x

end Arbiter

/-- The character that goes with a key event: none with a release, the low byte of the only
character of the text, or else the code of a control key that drives no modifier. -/
structure KeyEvent.Carries (e : KeyEvent) (c : UInt8) : Prop where
  released : e.state = .up → c = 0
  single : e.state = .down → ∀ {ch : Char}, e.text.toList = [ch] →
    c.toNat = if ch.toNat < 0x10000 then ch.toNat % 0x100 else 0
  control : e.state = .down → (∀ ch, e.text.toList ≠ [ch]) →
    c.toNat = if modifier? e.code = none ∧ e.code.toNat < 20 then e.code.toNat else 0

theorem KeyEvent.carries_charCode (e : KeyEvent) : e.Carries e.charCode where
  released h := by rw [charCode, h]
  single h ch ht := by
    rw [charCode, h]
    simp only [ht]
    split_ifs <;> simp
  control h ht := by
    have hc : e.charCode = controlCode e.code := by
      rw [charCode, h]
      dsimp only
      split
      · next ch hch => exact absurd hch (ht ch)
      · rfl
    have hlimit : e.code < controlLimit ↔ e.code.toNat < 20 := UInt32.lt_iff_toNat_lt
    rw [hc, controlCode]
    simp only [bit_eq_zero_iff, hlimit]
    split_ifs with hcode
    · rw [UInt32.toNat_toUInt8, Nat.mod_eq_of_lt (by omega)]
    · rfl

namespace Arbiter

open InputStep

/-- After any history the mask is the union of what the keys hold and what the last poll found, the
bound gamepad is the last to come and stay, and a key event is answered with the new mask. -/
theorem mask_eq_history (display : Config.Display) (steps : List InputStep) :
    (after display steps).mask =
      Modifier.union (fun k => ∃ code, KeyEvent.modifier? code = some k ∧ Held steps code) |||
        Modifier.union (fun k => ∃ pads index button, Polled steps pads index ∧
          (button, k) ∈ Gamepads.buttons ∧ pads index button = true) ∧
    (∀ index, (after display steps).boundPad = some index ↔ Bound steps index) ∧
    ∀ e, ∃ c, ((after display steps).keyboard e).2 =
      ⟨(after display (steps ++ [.key e])).mask, c⟩ ∧ e.Carries c := by
  have h := reflects_after display steps
  refine ⟨?_, h.bound, fun e => ⟨e.charCode, ?_, e.carries_charCode⟩⟩
  · rw [mask, Modifier.eq_union h.keys, Modifier.eq_union h.pads]
  · rw [after_append_singleton]
    rfl

end Arbiter

end GuestHost
