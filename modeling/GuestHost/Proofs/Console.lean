import GuestHost.Console
import Mathlib.Data.List.Basic

/-! The console against the stream that it is fed. What it delivers and what it holds back spell the
stream out: no byte is lost, added or moved, but that a flush ends a line which is open. -/
namespace GuestHost.Console

/-- What can be done to a console. -/
inductive Use where
  | push (b : UInt8)
  | pushAll (bytes : List UInt8)
  | flush

def Use.act : Use → Console → Console × List String
  | .push b, c => c.push b
  | .pushAll bytes, c => c.pushAll bytes
  | .flush, c => c.flush

/-- One after another: the console afterwards and all lines completed on the way. -/
def useAll : List Use → Console → Console × List String
  | [], c => (c, [])
  | u :: rest, c =>
    let (c, first) := u.act c
    let (c, later) := useAll rest c
    (c, first ++ later)

/-- A stream holds bytes and, between them, marks where it is flushed. -/
inductive Mark where
  | byte (b : UInt8)
  | flush
  deriving DecidableEq

def Use.marks : Use → List Mark
  | .push b => [.byte b]
  | .pushAll bytes => bytes.map .byte
  | .flush => [.flush]

/-- The stream of several uses. How its bytes were grouped cannot be seen in it. -/
def stream (uses : List Use) : List Mark :=
  uses.flatMap Use.marks

def newline : UInt8 := 0x0a

/-- A line is open when a byte came last that does not end it. -/
def Open (marks : List Mark) : Prop :=
  ∃ b, marks.getLast? = some (.byte b) ∧ b ≠ newline

/-- The bytes of a stream, in order. -/
def bytes : List Mark → List UInt8
  | [] => []
  | .byte b :: rest => b :: bytes rest
  | .flush :: rest => bytes rest

/-- Counts the flushes that find a line open. -/
def cuts : (opened : Bool) → List Mark → Nat
  | _, [] => 0
  | _, .byte b :: rest => cuts (b != newline) rest
  | opened, .flush :: rest => opened.toNat + cuts false rest

/-- The bytes of a stream, with a newline for each flush that finds a line open. -/
def spelled : (opened : Bool) → List Mark → List UInt8
  | _, [] => []
  | _, .byte b :: rest => b :: spelled (b != newline) rest
  | true, .flush :: rest => newline :: spelled false rest
  | false, .flush :: rest => spelled false rest

/-- All that has come out, each line with the newline that ended it, and what is held back. -/
def text (out : Console × List String) : List Char :=
  out.2.flatMap (fun line => line.toList ++ ['\n']) ++ out.1.pending.toList

/-- The bytes with the numbers of the characters. -/
def received (out : Console × List String) : List UInt8 :=
  (text out).map fun a => UInt8.ofNat a.toNat

/-- What holds of a console that has been used from the start, and of the lines that it has
delivered. -/
structure Faithful (uses : List Use) (out : Console × List String) : Prop where
  spells : (text out).map Char.toNat = (spelled false (stream uses)).map UInt8.toNat
  unbroken : (∀ line ∈ out.2, '\n' ∉ line.toList) ∧ '\n' ∉ out.1.pending.toList
  opened : out.1.pending ≠ "" ↔ Open (stream uses)
  cut : text (useAll (uses ++ [.flush]) {}) = text out ++ if out.1.pending = "" then [] else ['\n']
  flushed : (useAll (uses ++ [.flush]) {}).1.pending = ""
  grouped : ∀ uses', stream uses' = stream uses → useAll uses' {} = out
  recovered : received out = bytes (stream uses) ↔ cuts false (stream uses) = 0

/-- One mark of a stream. -/
def take : Mark → Console → Console × List String
  | .byte b, c => c.push b
  | .flush, c => c.flush

def feed : List Mark → Console → Console × List String
  | [], c => (c, [])
  | m :: rest, c => ((feed rest (c.take m).1).1, (c.take m).2 ++ (feed rest (c.take m).1).2)

/-- Whether anything is pending. -/
def holds (c : Console) : Bool :=
  !c.pending.isEmpty

variable {c : Console} {b : UInt8}

section Steps

theorem push_newline (c : Console) : c.push newline = (⟨""⟩, [c.pending]) := rfl

theorem push_of_ne (h : b ≠ newline) (c : Console) :
    c.push b = (⟨c.pending.push (.ofUInt8 b)⟩, []) :=
  if_neg h

@[simp] theorem holds_empty : (⟨""⟩ : Console).holds = false := rfl

@[simp] theorem holds_push (s : String) (a : Char) : (⟨s.push a⟩ : Console).holds = true := by
  simp [holds]

theorem holds_eq_false_iff : c.holds = false ↔ c.pending = "" := by
  simp [holds]

theorem flush_of_empty (h : c.holds = false) : c.flush = (c, []) := by
  rw [holds, Bool.not_eq_false'] at h
  exact if_pos h

theorem flush_of_holds (h : c.holds = true) : c.flush = (⟨""⟩, [c.pending]) := by
  rw [holds, Bool.not_eq_true'] at h
  rw [flush, h]
  rfl

theorem pending_flush (c : Console) : c.flush.1.pending = "" := by
  cases h : c.holds with
  | true => rw [flush_of_holds h]
  | false =>
    rw [flush_of_empty h]
    exact holds_eq_false_iff.mp h

end Steps

section Feed

theorem feed_append (marks marks' : List Mark) (c : Console) :
    feed (marks ++ marks') c =
      ((feed marks' (feed marks c).1).1, (feed marks c).2 ++ (feed marks' (feed marks c).1).2) := by
  induction marks generalizing c with
  | nil => rfl
  | cons m rest ih => simp only [List.cons_append, feed, ih, List.append_assoc]

theorem feed_singleton (m : Mark) (c : Console) : feed [m] c = c.take m := by
  simp [feed]

theorem pushAll_eq_feed (bytes : List UInt8) (c : Console) :
    c.pushAll bytes = feed (bytes.map .byte) c := by
  induction bytes generalizing c with
  | nil => rfl
  | cons b rest ih => simp only [pushAll, List.map_cons, feed, take, ih]

theorem act_eq_feed (u : Use) (c : Console) : u.act c = feed u.marks c := by
  cases u with
  | push b => exact (feed_singleton (.byte b) c).symm
  | pushAll bytes => exact pushAll_eq_feed bytes c
  | flush => exact (feed_singleton .flush c).symm

/-- Only the stream is of account. -/
theorem useAll_eq_feed (uses : List Use) (c : Console) : useAll uses c = feed (stream uses) c := by
  induction uses generalizing c with
  | nil => rfl
  | cons u rest ih =>
    rw [stream, List.flatMap_cons, feed_append, ← act_eq_feed]
    simp only [useAll, ih, stream]

theorem useAll_append_flush (uses : List Use) (c : Console) :
    useAll (uses ++ [.flush]) c =
      ((useAll uses c).1.flush.1, (useAll uses c).2 ++ (useAll uses c).1.flush.2) := by
  have hstream : stream (uses ++ [.flush]) = stream uses ++ [.flush] := List.flatMap_append
  rw [useAll_eq_feed, hstream, feed_append, feed_singleton, ← useAll_eq_feed]
  rfl

end Feed

section Text

theorem ofUInt8_newline : Char.ofUInt8 newline = '\n' := rfl

theorem ofUInt8_ne_newline (h : b ≠ newline) : Char.ofUInt8 b ≠ '\n' := by
  intro he
  have hnat : b.toNat = newline.toNat := congrArg Char.toNat he
  exact h (UInt8.toNat_inj.mp hnat)

/-- What is held back never holds a newline, and neither does a line made of it. -/
theorem unbroken_take (m : Mark) (h : '\n' ∉ c.pending.toList) :
    (∀ line ∈ (c.take m).2, '\n' ∉ line.toList) ∧ '\n' ∉ (c.take m).1.pending.toList := by
  have hended : (∀ line ∈ [c.pending], '\n' ∉ line.toList) ∧ '\n' ∉ "".toList :=
    ⟨List.forall_mem_singleton.mpr h, List.not_mem_nil⟩
  cases m with
  | byte b =>
    by_cases hb : b = newline
    · rw [hb]
      exact hended
    · rw [take, push_of_ne hb]
      refine ⟨nofun, ?_⟩
      rw [String.toList_push, List.mem_append, List.mem_singleton]
      exact not_or.mpr ⟨h, (ofUInt8_ne_newline hb).symm⟩
  | flush =>
    cases he : c.holds with
    | true =>
      rw [take, flush_of_holds he]
      exact hended
    | false =>
      rw [take, flush_of_empty he]
      exact ⟨nofun, h⟩

theorem unbroken_feed (marks : List Mark) (h : '\n' ∉ c.pending.toList) :
    (∀ line ∈ (feed marks c).2, '\n' ∉ line.toList) ∧ '\n' ∉ (feed marks c).1.pending.toList := by
  induction marks generalizing c with
  | nil => exact ⟨nofun, h⟩
  | cons m rest ih =>
    obtain ⟨hfirst, hheld⟩ := unbroken_take m h
    obtain ⟨hlater, hlast⟩ := ih hheld
    exact ⟨List.forall_mem_append.mpr ⟨hfirst, hlater⟩, hlast⟩

theorem text_cons (first : List String) (out : Console × List String) :
    text (out.1, first ++ out.2) =
      first.flatMap (fun line => line.toList ++ ['\n']) ++ text out := by
  rw [text, text, List.flatMap_append, List.append_assoc]

/-- A flush adds a newline where something is pending. -/
theorem text_flush (c : Console) (lines : List String) :
    text (c.flush.1, lines ++ c.flush.2) =
      text (c, lines) ++ if c.pending = "" then [] else ['\n'] := by
  cases h : c.holds with
  | true =>
    have hpending : c.pending ≠ "" := by
      rw [Ne, ← holds_eq_false_iff, h]
      exact Bool.noConfusion
    simp [text, flush_of_holds h, hpending]
  | false =>
    rw [flush_of_empty h, if_pos (holds_eq_false_iff.mp h), List.append_nil, List.append_nil]

/-- By induction on the stream, from any console: what is pending comes before all that is still to
be spelled. -/
theorem text_feed (marks : List Mark) (c : Console) :
    text (feed marks c) = c.pending.toList ++ (spelled c.holds marks).map Char.ofUInt8 := by
  induction marks generalizing c with
  | nil => simp [text, feed, spelled]
  | cons m rest ih =>
    rw [feed, text_cons, ih]
    cases m with
    | byte b =>
      by_cases hb : b = newline
      · subst hb
        simp [take, push_newline, spelled, ofUInt8_newline]
      · have hopens : (b != newline) = true := bne_iff_ne.mpr hb
        rw [take, push_of_ne hb]
        simp [spelled, hopens]
    | flush =>
      cases he : c.holds with
      | true =>
        rw [take, flush_of_holds he]
        simp [spelled, ofUInt8_newline]
      | false =>
        rw [take, flush_of_empty he]
        simp [spelled, he]

end Text

section Recovery

theorem length_spelled (opened : Bool) (marks : List Mark) :
    (spelled opened marks).length = (bytes marks).length + cuts opened marks := by
  induction marks generalizing opened with
  | nil => rfl
  | cons m rest ih =>
    cases m with
    | byte b =>
      simp only [spelled, bytes, cuts, List.length_cons, ih]
      omega
    | flush =>
      cases opened <;> simp only [spelled, bytes, cuts, List.length_cons, ih, Bool.toNat_true,
        Bool.toNat_false] <;> omega

theorem spelled_of_uncut {opened : Bool} {marks : List Mark} (h : cuts opened marks = 0) :
    spelled opened marks = bytes marks := by
  induction marks generalizing opened with
  | nil => rfl
  | cons m rest ih =>
    cases m with
    | byte b => exact congrArg (b :: ·) (ih h)
    | flush =>
      obtain ⟨hopened, hrest⟩ := Nat.add_eq_zero_iff.mp h
      cases opened with
      | true => cases hopened
      | false => exact ih hrest

/-- Only a newline that a flush has put in stands between the bytes and what is spelled. -/
theorem spelled_eq_bytes_iff {opened : Bool} {marks : List Mark} :
    spelled opened marks = bytes marks ↔ cuts opened marks = 0 := by
  refine ⟨fun h => ?_, spelled_of_uncut⟩
  have hlength := length_spelled opened marks
  rw [h] at hlength
  omega

theorem received_feed (marks : List Mark) : received (feed marks {}) = spelled false marks := by
  have hbyte : (fun a => UInt8.ofNat a.toNat) ∘ Char.ofUInt8 = id :=
    funext fun b => UInt8.ofNat_toNat
  rw [received, text_feed, String.toList_empty, List.nil_append, List.map_map, hbyte, List.map_id]
  rfl

end Recovery

/-- The last mark alone decides whether anything is pending. -/
theorem pending_feed_iff (marks : List Mark) : (feed marks {}).1.pending ≠ "" ↔ Open marks := by
  rcases List.eq_nil_or_concat marks with rfl | ⟨earlier, m, rfl⟩
  · exact iff_of_false (fun h => h rfl) nofun
  · rw [List.concat_eq_append, feed_append, feed_singleton, Open, List.getLast?_concat]
    cases m with
    | byte b =>
      by_cases hb : b = newline
      · subst hb
        simp [take, push_newline]
      · rw [take, push_of_ne hb]
        simpa using hb
    | flush =>
      rw [take, pending_flush]
      simp

/-- However a console is used, all that it was given comes out again in order, but for the newlines
of the flushes that found a line open. -/
theorem faithful_useAll (uses : List Use) : Faithful uses (useAll uses {}) where
  spells := by
    rw [useAll_eq_feed, text_feed, String.toList_empty, List.nil_append, List.map_map]
    rfl
  unbroken := by
    rw [useAll_eq_feed]
    exact unbroken_feed _ List.not_mem_nil
  opened := by
    rw [useAll_eq_feed]
    exact pending_feed_iff _
  cut := by
    rw [useAll_append_flush]
    exact text_flush _ _
  flushed := by
    rw [useAll_append_flush]
    exact pending_flush _
  grouped uses' h := by rw [useAll_eq_feed, useAll_eq_feed, h]
  recovered := by
    rw [← spelled_eq_bytes_iff, useAll_eq_feed, received_feed]

example : useAll [.pushAll [0x61], .flush, .flush, .push newline, .push 0xe9] {} =
    (⟨"é"⟩, ["a", ""]) := by decide

end GuestHost.Console
