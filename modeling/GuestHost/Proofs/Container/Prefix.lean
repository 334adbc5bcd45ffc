import GuestHost.Container.Text
import Mathlib.Data.List.Basic
import Mathlib.Tactic.SplitIfs

/-! What may stand before the text of a module. Mark and blanks are passed over where the format is
told; whoever reads the text is handed them as well, and takes fewer of them. -/
namespace GuestHost.Container

def formFeed : UInt8 := 0x0c

def openParen : UInt8 := 0x28

/-- Space, tab, line feed and carriage return: all blanks but the form feed. -/
def isSkipped (b : UInt8) : Bool :=
  b == 0x20 || b == 0x09 || b == 0x0a || b == 0x0d

/-- A mark, if there is one, and blanks. -/
def front (marked : Bool) (blanks : List UInt8) : ByteArray :=
  ⟨((if marked then byteOrderMark else []) ++ blanks).toArray⟩

/-- What the readers of module texts have in common: they skip blanks before the module, but stop at
a mark and at a form feed. -/
structure Assembler.Lawful (read : Assembler) : Prop where
  skips : ∀ (blanks : List UInt8) (text : ByteArray), (∀ b ∈ blanks, isSkipped b = true) →
    text.data.toList.head? = some openParen → read (front false blanks ++ text) = read text
  stopsAtMark : ∀ rest, read (front true [] ++ rest) = none
  stopsAtFeed : ∀ (blanks : List UInt8) (rest : ByteArray), (∀ b ∈ blanks, isSkipped b = true) →
    read (front false (blanks ++ [formFeed]) ++ rest) = none

theorem ext_toList {a b : ByteArray} (h : a.data.toList = b.data.toList) : a = b :=
  ByteArray.ext (Array.toList_inj.mp h)

section Format

theorem toList_front_append (marked : Bool) (blanks : List UInt8) (text : ByteArray) :
    (front marked blanks ++ text).data.toList =
      (if marked then byteOrderMark else []) ++ blanks ++ text.data.toList := by
  simp [front]

theorem isSkipped_of_isBlank {b : UInt8} (h : isBlank b = true) (hf : b ≠ formFeed) :
    isSkipped b = true := by
  simp only [isBlank, Bool.or_eq_true, beq_iff_eq] at h
  rcases h with (((rfl | rfl) | rfl) | rfl) | rfl
  · rfl
  · rfl
  · rfl
  · exact absurd rfl hf
  · rfl

variable {blanks text : List UInt8} (hblanks : ∀ b ∈ blanks, isBlank b = true)
  (htext : text.head? = some openParen)
include hblanks htext

/-- Blanks and text begin neither like a mark nor like a module in binary form. -/
theorem head_of_blanks :
    ∃ b rest, blanks ++ text = b :: rest ∧ b ≠ 0x00 ∧ b ≠ 0xef := by
  cases blanks with
  | nil =>
    obtain ⟨rest, rfl⟩ := List.head?_eq_some_iff.mp htext
    exact ⟨openParen, rest, rfl, by decide, by decide⟩
  | cons b blanks =>
    have hb : isBlank b = true := hblanks b List.mem_cons_self
    refine ⟨b, blanks ++ text, rfl, ?_, ?_⟩ <;>
    · rintro rfl
      exact absurd hb (by decide)

theorem withoutMark_of_front (marked : Bool) :
    withoutMark ((if marked then byteOrderMark else []) ++ blanks ++ text) = blanks ++ text := by
  cases marked with
  | true => rfl
  | false =>
    obtain ⟨b, rest, hlist, -, hb⟩ := head_of_blanks hblanks htext
    have hnone : byteOrderMark.isPrefixOf (b :: rest) = false := by
      simp [byteOrderMark, List.isPrefixOf, hb.symm]
    rw [if_neg Bool.false_ne_true, List.nil_append, hlist, withoutMark, hnone,
      if_neg Bool.false_ne_true]

theorem not_magic_of_front (marked : Bool) :
    magic.isPrefixOf ((if marked then byteOrderMark else []) ++ blanks ++ text) = false := by
  cases marked with
  | true => rfl
  | false =>
    obtain ⟨b, rest, hlist, hb, -⟩ := head_of_blanks hblanks htext
    rw [if_neg Bool.false_ne_true, List.nil_append, hlist]
    simp [magic, List.isPrefixOf, hb.symm]

theorem ofList?_of_front (marked : Bool) :
    Format.ofList? ((if marked then byteOrderMark else []) ++ blanks ++ text) = some .text := by
  have hfirst : ((blanks ++ text).dropWhile isBlank).head? = some openParen := by
    obtain ⟨rest, rfl⟩ := List.head?_eq_some_iff.mp htext
    rw [List.dropWhile_append_of_pos hblanks]
    rfl
  rw [Format.ofList?, not_magic_of_front hblanks htext, withoutMark_of_front hblanks htext]
  exact if_pos hfirst

end Format

section Reading

variable {read : Assembler} {text : ByteArray} {w : ByteArray}

theorem binaryFormBy_of_some {bytes : ByteArray} (h : Format.ofBytes? bytes = some .text)
    (hr : read bytes = some w) : binaryFormBy read bytes = .ok (.text, w) := by
  simp only [binaryFormBy, h, hr]

theorem binaryFormBy_of_none {bytes : ByteArray} (h : Format.ofBytes? bytes = some .text)
    (hr : read bytes = none) : binaryFormBy read bytes = .error .badText := by
  simp only [binaryFormBy, h, hr]

theorem read_of_binaryFormBy (h : binaryFormBy read text = .ok (.text, w)) :
    read text = some w := by
  unfold binaryFormBy at h
  split at h
  · cases h
  · cases h
  · cases hr : read text with
    | none =>
      rw [hr] at h
      cases h
    | some binary =>
      rw [hr] at h
      cases h
      rfl

/-- The reader is handed what stands before the text, and stops where it cannot skip it. -/
theorem Assembler.Lawful.read_front (h : read.Lawful) {marked : Bool} {blanks : List UInt8}
    (hblanks : ∀ b ∈ blanks, isBlank b = true) (htext : text.data.toList.head? = some openParen) :
    read (front marked blanks ++ text) =
      if marked = true ∨ formFeed ∈ blanks then none else read text := by
  cases marked with
  | true =>
    have hsplit : front true blanks ++ text = front true [] ++ (⟨blanks.toArray⟩ ++ text) := by
      apply ext_toList
      simp [front]
    rw [if_pos (.inl rfl), hsplit, h.stopsAtMark]
  | false =>
    by_cases hfeed : formFeed ∈ blanks
    · obtain ⟨before, after, rfl, hbefore⟩ := List.eq_append_cons_of_mem hfeed
      have hsplit : front false (before ++ formFeed :: after) ++ text =
          front false (before ++ [formFeed]) ++ (⟨after.toArray⟩ ++ text) := by
        apply ext_toList
        simp [front]
      have hskipped : ∀ b ∈ before, isSkipped b = true := fun b hb =>
        isSkipped_of_isBlank (hblanks b (List.mem_append_left _ hb)) fun he => hbefore (he ▸ hb)
      rw [if_pos (.inr hfeed), hsplit, h.stopsAtFeed _ _ hskipped]
    · have hskipped : ∀ b ∈ blanks, isSkipped b = true := fun b hb =>
        isSkipped_of_isBlank (hblanks b hb) fun he => hfeed (he ▸ hb)
      rw [h.skips _ _ hskipped htext, if_neg]
      rintro (hmarked | hmem)
      · exact Bool.false_ne_true hmarked
      · exact hfeed hmem

/-- However the text is read, a prefix of mark and blanks is let through where the format is told.
With it the text is read as it is without it, unless a mark or a form feed is among it. -/
theorem binaryForm_behind_front (h : read.Lawful) {marked : Bool} {blanks : List UInt8}
    (hblanks : ∀ b ∈ blanks, isBlank b = true) (htext : text.data.toList.head? = some openParen)
    (hw : binaryFormBy read text = .ok (.text, w)) :
    Format.ofBytes? (front marked blanks ++ text) = some .text ∧
      binaryFormBy read (front marked blanks ++ text) =
        if marked = true ∨ formFeed ∈ blanks then .error .badText else .ok (.text, w) := by
  have hformat : Format.ofBytes? (front marked blanks ++ text) = some .text := by
    rw [Format.ofBytes?, toList_front_append]
    exact ofList?_of_front hblanks htext marked
  have hread : read (front marked blanks ++ text) = _ := h.read_front hblanks htext
  refine ⟨hformat, ?_⟩
  split_ifs at hread ⊢ with hstops
  · exact binaryFormBy_of_none hformat hread
  · exact binaryFormBy_of_some hformat (hread.trans (read_of_binaryFormBy hw))

end Reading

section Assemble

variable {b : UInt8} {c : Char}

theorem fromUTF8?_encode_append (c : Char) (rest : ByteArray) :
    String.fromUTF8? ([c].utf8Encode ++ rest) =
      (String.fromUTF8? rest).map (String.singleton c ++ ·) := by
  unfold String.fromUTF8?
  by_cases hvalid : rest.IsValidUTF8
  · have hcons := ByteArray.isValidUTF8_utf8Encode_singleton_append_iff (c := c) |>.mpr hvalid
    rw [dif_pos hcons, dif_pos hvalid, Option.map_some, Option.some_inj]
    apply String.toByteArray_inj.mp
    rw [String.toByteArray_append, String.toByteArray_singleton]
    rfl
  · have hcons : ¬([c].utf8Encode ++ rest).IsValidUTF8 := fun h =>
      hvalid (ByteArray.isValidUTF8_utf8Encode_singleton_append_iff.mp h)
    rw [dif_neg hcons, dif_neg hvalid, Option.map_none]

theorem assemble_encode_append (c : Char) (rest : ByteArray) :
    assemble ([c].utf8Encode ++ rest) = (String.fromUTF8? rest).bind fun s =>
      if Text.isEmptyModule (c :: s.toList) then some emptyModule else none := by
  rw [assemble, fromUTF8?_encode_append]
  cases String.fromUTF8? rest with
  | none => rfl
  | some s =>
    have hlist : (String.singleton c ++ s).toList = c :: s.toList := by simp
    simp only [Option.map_some, hlist, Option.bind_some]

theorem Text.isEmptyModule_blank {cs : List Char} (h : isBlank c = true) :
    isEmptyModule (c :: cs) = isEmptyModule cs := by
  have hplain : plain .code (c :: cs) = (' ' :: ·) <$> plain .code cs := by
    simp only [isBlank, Bool.or_eq_true, beq_iff_eq] at h
    rcases h with ((rfl | rfl) | rfl) | rfl <;> rfl
  unfold isEmptyModule
  rw [hplain]
  cases plain .code cs <;> rfl

/-- A character that is left where it stands must be the one that opens the module. -/
theorem Text.isEmptyModule_of_plain {cs : List Char}
    (h : plain .code (c :: cs) = (c :: ·) <$> plain .code cs) (hspace : c ≠ ' ')
    (hparen : c ≠ '(') : isEmptyModule (c :: cs) = false := by
  unfold isEmptyModule
  rw [h]
  cases plain .code cs with
  | none => rfl
  | some rest => simp [expect?, trimLeft, hspace, hparen.symm]

/-- Each byte that is skipped is a blank of its own in the text. -/
theorem exists_encode_of_isSkipped (h : isSkipped b = true) :
    ∃ c, Text.isBlank c = true ∧ [c].utf8Encode = ⟨#[b]⟩ := by
  simp only [isSkipped, Bool.or_eq_true, beq_iff_eq] at h
  rcases h with ((rfl | rfl) | rfl) | rfl
  · exact ⟨' ', rfl, rfl⟩
  · exact ⟨'\t', rfl, rfl⟩
  · exact ⟨'\n', rfl, rfl⟩
  · exact ⟨'\r', rfl, rfl⟩

theorem assemble_blank_append {c : Char} (hc : Text.isBlank c = true) (rest : ByteArray) :
    assemble ([c].utf8Encode ++ rest) = assemble rest := by
  rw [assemble_encode_append, assemble]
  cases String.fromUTF8? rest with
  | none => rfl
  | some s => simp only [Option.bind_some, Text.isEmptyModule_blank hc]

theorem assemble_front {blanks : List UInt8} (h : ∀ b ∈ blanks, isSkipped b = true)
    (rest : ByteArray) : assemble (front false blanks ++ rest) = assemble rest := by
  induction blanks with
  | nil =>
    have hnone : front false [] ++ rest = rest := by
      apply ext_toList
      simp [front]
    rw [hnone]
  | cons b blanks ih =>
    obtain ⟨hb, hblanks⟩ := List.forall_mem_cons.mp h
    obtain ⟨c, hc, hbyte⟩ := exists_encode_of_isSkipped hb
    have hsplit : front false (b :: blanks) ++ rest =
        [c].utf8Encode ++ (front false blanks ++ rest) := by
      rw [hbyte]
      apply ext_toList
      simp [front]
    rw [hsplit, assemble_blank_append hc, ih hblanks]

/-- A text that holds no more than the empty module is read in this way. -/
theorem lawful_assemble : Assembler.Lawful assemble where
  skips blanks text h _ := assemble_front h text
  stopsAtMark rest := by
    have hmark : front true [] = ['\ufeff'].utf8Encode := rfl
    rw [hmark, assemble_encode_append]
    cases String.fromUTF8? rest with
    | none => rfl
    | some s => simp [Text.isEmptyModule_of_plain (c := '\ufeff') rfl]
  stopsAtFeed blanks rest h := by
    have hsplit : front false (blanks ++ [formFeed]) ++ rest =
        front false blanks ++ (['\x0c'].utf8Encode ++ rest) := by
      have hbyte : ['\x0c'].utf8Encode = ⟨#[formFeed]⟩ := rfl
      rw [hbyte]
      apply ext_toList
      simp [front]
    rw [hsplit, assemble_front h, assemble_encode_append]
    cases String.fromUTF8? rest with
    | none => rfl
    | some s => simp [Text.isEmptyModule_of_plain (c := '\x0c') rfl]

end Assemble

def moduleText : ByteArray :=
  "(module)".toUTF8

theorem binaryForm_moduleText : binaryForm moduleText = .ok (.text, emptyModule) := rfl

/-- A blank may stand before this module, a mark may not. -/
theorem binaryForm_behind_front_module :
    binaryForm (front false [0x20, 0x0a] ++ moduleText) = .ok (.text, emptyModule) ∧
      binaryForm (front true [] ++ moduleText) = .error .badText := by
  have hblanks : ∀ b ∈ [0x20, 0x0a], isBlank b = true :=
    List.forall_mem_cons.mpr ⟨rfl, List.forall_mem_singleton.mpr rfl⟩
  have hmark : _ ∧ binaryForm (front true [] ++ moduleText) = .error .badText :=
    binaryForm_behind_front lawful_assemble nofun rfl binaryForm_moduleText
  exact ⟨(binaryForm_behind_front lawful_assemble hblanks rfl binaryForm_moduleText).2, hmark.2⟩

/-- The format of a text is told behind a mark, but the text is not read there. -/
theorem not_loads_behind_mark : ¬∀ (marked : Bool) (blanks : List UInt8) (text w : ByteArray),
    (∀ b ∈ blanks, isBlank b = true) → text.data.toList.head? = some openParen →
      binaryForm text = .ok (.text, w) →
        binaryForm (front marked blanks ++ text) = .ok (.text, w) := by
  intro hall
  have hloads := hall true [] moduleText emptyModule nofun rfl binaryForm_moduleText
  exact nomatch hloads

end GuestHost.Container
