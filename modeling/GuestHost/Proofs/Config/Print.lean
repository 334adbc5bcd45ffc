import GuestHost.Config.Printer
import GuestHost.Proofs.Config.Document

/-! Settings come back as they were printed: the text that is printed is a document, and it lists
every field. -/
namespace GuestHost.Config

open Json

/-- A value with its name and its text. -/
structure Printed where
  name : String
  value : Value
  text : String

namespace Printed

/-- The text says the value, and the name needs no escapes. -/
structure Sound (m : Printed) : Prop where
  name : IsPlain m.name.toList
  text : m.value.Written m.text

def line (m : Printed) : String :=
  member m.name m.text

def members (ms : List Printed) : Members :=
  ms.map fun m => (plainPieces m.name.toList, m.value)

variable {m : Printed} {ms : List Printed} {shape : Shape}

theorem members_cons (m : Printed) (ms : List Printed) :
    members (m :: ms) = (plainPieces m.name.toList, m.value) :: members ms := rfl

theorem given_members (ms : List Printed) (name : String) :
    (members ms).given name = (ms.find? (·.name = name)).map Printed.value := by
  induction ms with
  | nil => rfl
  | cons m ms ih =>
    have hkey := keyName?_plain m.name
    rw [members_cons]
    by_cases h : m.name = name
    · rw [Members.given_cons_of_eq (by rw [hkey, h]), List.find?_cons_of_pos (by simp [h])]
      rfl
    · have hne : keyName? (plainPieces m.name.toList) ≠ some name := by
        rw [hkey]
        exact fun he => h (Option.some.inj he)
      rw [Members.given_cons_of_ne hne, ih, List.find?_cons_of_neg (by simp [h])]

theorem times_members (ms : List Printed) (name : String) :
    (members ms).times name = (ms.map Printed.name).count name := by
  induction ms with
  | nil => rfl
  | cons m ms ih =>
    rw [members_cons, Members.times_cons (keyName?_plain m.name), ih, List.map_cons, List.count_cons]
    by_cases h : name = m.name
    · simp [h]
    · simp [h, Ne.symm h]

/-- Different names make an object for a record. -/
theorem fit_members (hnodup : (ms.map Printed.name).Nodup)
    (hfits : ∀ p ∈ shape, ∀ m ∈ ms, m.name = p.1 → p.2 m.value) : (members ms).Fit shape where
  named m hm := by
    obtain ⟨m, -, rfl⟩ := List.mem_map.mp hm
    exact ⟨m.name, keyName?_plain m.name⟩
  once p _ := by
    rw [times_members]
    exact List.nodup_iff_count.mp hnodup p.1
  fits p hp m hm hname := by
    obtain ⟨m, hmem, rfl⟩ := List.mem_map.mp hm
    rw [keyName?_plain] at hname
    exact hfits p hp m hmem (Option.some.inj hname)

theorem spelled_line (hm : m.Sound) :
    Spelled (.ofPieces (plainPieces m.name.toList) :: .colon :: m.value.tokens) m.line.toList := by
  have hcolon : Spelled (.colon :: m.value.tokens) (':' :: m.text.toList) := .token .colon hm.text
  have hline : m.line.toList = '"' :: (m.name.toList ++ ['"']) ++ (':' :: m.text.toList) := by
    simp [line, member, String.toList_append]
  rw [hline]
  exact (spelled_plain m.name.toList hm.name).append hcolon

/-- By induction on the members behind the first one. -/
theorem spelled_lines (m : Printed) (ms : List Printed) (hms : ∀ m' ∈ m :: ms, m'.Sound) :
    Spelled (Value.memberTokens true (members (m :: ms)))
      ([','].intercalate ((m :: ms).map fun m => m.line.toList) ++ ['\x7d']) := by
  have hline := spelled_line (hms m List.mem_cons_self)
  induction ms generalizing m with
  | nil =>
    have hclose := spelled_of_text .closeObject
    simpa [members, Value.memberTokens, separator] using hline.append hclose
  | cons m' ms ih =>
    have hms' := (List.forall_mem_cons.mp hms).2
    have hcomma := spelled_of_text .comma
    have hrest := hcomma.append (ih m' hms' (spelled_line (hms' m' List.mem_cons_self)))
    simp only [List.map_cons, List.intercalate_cons_cons, List.append_assoc]
    simpa [members, Value.memberTokens, separator] using hline.append hrest

theorem written_object (hms : ∀ m ∈ ms, m.Sound) :
    (Value.object (members ms)).Written (object (ms.map line)) := by
  have hlines : Spelled (Value.memberTokens true (members ms))
      ([','].intercalate (ms.map fun m => m.line.toList) ++ ['\x7d']) := by
    cases ms with
    | nil => exact spelled_of_text .closeObject
    | cons m ms => exact spelled_lines m ms hms
  have hopen := (spelled_of_text .openObject).append hlines
  simpa [Value.Written, Value.tokens, object, String.toList_append, String.toList_intercalate,
    Function.comp_def] using hopen

end Printed

def wordValue (w : UInt32) : Value :=
  .numeral (.ofNat w.toNat)

def optionalWordValue : Option UInt32 → Value
  | none => .null
  | some w => wordValue w

theorem written_word (w : UInt32) : (wordValue w).Written (word w) :=
  spelled_ofNat w.toNat

theorem written_optionalWord (w : Option UInt32) : (optionalWordValue w).Written (optionalWord w) := by
  cases w with
  | none => exact spelled_of_text .null
  | some w => exact written_word w

theorem word?_wordValue (w : UInt32) : (wordValue w).word? = some w :=
  word?_ofNat w

theorem optionalWord?_value (w : Option UInt32) :
    (optionalWordValue w).optionalWord? = some w := by
  cases w with
  | none => rfl
  | some w =>
    have hne : wordValue w ≠ .null := by simp [wordValue]
    rw [optionalWordValue, optionalWord?_of_ne hne, word?_wordValue]
    rfl

theorem isWord_wordValue (w : UInt32) : IsWord (wordValue w) := by
  rw [IsWord, word?_wordValue]
  rfl

theorem isOptionalWord_value (w : Option UInt32) : IsOptionalWord (optionalWordValue w) := by
  rw [IsOptionalWord, optionalWord?_value]
  rfl

namespace Printed

def ofWord (name : String) (w : UInt32) : Printed :=
  ⟨name, wordValue w, word w⟩

def ofOptionalWord (name : String) (w : Option UInt32) : Printed :=
  ⟨name, optionalWordValue w, optionalWord w⟩

theorem sound_ofWord {name : String} (h : IsPlain name.toList) (w : UInt32) :
    (ofWord name w).Sound :=
  ⟨h, written_word w⟩

theorem sound_ofOptionalWord {name : String} (h : IsPlain name.toList) (w : Option UInt32) :
    (ofOptionalWord name w).Sound :=
  ⟨h, written_optionalWord w⟩

end Printed

/-- The object that is printed for a section, and what it is read as. -/
structure PrintsSection {σ : Type} (shape : Shape) (of : Members → σ) (print : σ → String)
    (printed : σ → List Printed) : Prop where
  line : ∀ r, print r = object ((printed r).map Printed.line)
  sound : ∀ r, ∀ m ∈ printed r, m.Sound
  fit : ∀ r, (Printed.members (printed r)).Fit shape
  of_eq : ∀ r, of (Printed.members (printed r)) = r

/-- The members of a record of two words. -/
def Printed.pair {σ : Type} (n₁ n₂ : String) (π₁ π₂ : σ → UInt32) (r : σ) : List Printed :=
  [.ofWord n₁ (π₁ r), .ofWord n₂ (π₂ r)]

theorem Pair.printsSection {σ : Type} {S : Schema σ} {n₁ n₂ : String} {π₁ π₂ : σ → UInt32}
    {of : Members → σ} (h : Pair S n₁ n₂ π₁ π₂ of) (h₁ : IsPlain n₁.toList)
    (h₂ : IsPlain n₂.toList) {print : σ → String}
    (hprint : ∀ r, print r = object ((Printed.pair n₁ n₂ π₁ π₂ r).map Printed.line)) :
    PrintsSection [(n₁, IsWord), (n₂, IsWord)] of print (Printed.pair n₁ n₂ π₁ π₂) where
  line := hprint
  sound r := by
    simp only [Printed.pair, List.forall_mem_cons]
    exact ⟨Printed.sound_ofWord h₁ _, Printed.sound_ofWord h₂ _, nofun⟩
  fit r := by
    apply Printed.fit_members
    · simp [Printed.pair, Printed.ofWord, h.ne]
    · simp [Printed.pair, Printed.ofWord, isWord_wordValue]
  of_eq r := by
    obtain ⟨hfirst, hsecond⟩ := h.listed (Printed.members (Printed.pair n₁ n₂ π₁ π₂ r))
    apply h.ext
    · rw [hfirst]
      simp [Members.word, Printed.given_members, Printed.pair, Printed.ofWord, word?_wordValue]
    · rw [hsecond]
      simp [Members.word, Printed.given_members, Printed.pair, Printed.ofWord, h.ne, word?_wordValue]

def Display.printed : Display → List Printed :=
  Printed.pair "width" "height" width height

theorem Display.printsSection : PrintsSection shape ofMembers print printed :=
  pair.printsSection (by decide) (by decide) fun _ => rfl

def AddressSpace.printed : AddressSpace → List Printed :=
  Printed.pair "address_space" "reserved_header" size reservedHeader

theorem AddressSpace.printsSection : PrintsSection shape ofMembers print printed :=
  pair.printsSection (by decide) (by decide) fun _ => rfl

def Audio.printed : Audio → List Printed :=
  Printed.pair "chunk_frames" "sample_rate" chunkFrames sampleRate

theorem Audio.printsSection : PrintsSection shape ofMembers print printed :=
  pair.printsSection (by decide) (by decide) fun _ => rfl

def Hotkeys.printed (h : Hotkeys) : List Printed :=
  [.ofOptionalWord "save" h.save, .ofOptionalWord "restore" h.restore, .ofOptionalWord "reset" h.reset]

theorem Hotkeys.printsSection : PrintsSection shape ofMembers print printed where
  line _ := rfl
  sound h := by
    simp only [printed, List.forall_mem_cons]
    exact ⟨Printed.sound_ofOptionalWord (by decide) _, Printed.sound_ofOptionalWord (by decide) _,
      Printed.sound_ofOptionalWord (by decide) _, nofun⟩
  fit h := by
    apply Printed.fit_members
    · simp [printed, Printed.ofOptionalWord]
    · simp [printed, shape, Printed.ofOptionalWord, isOptionalWord_value]
  of_eq h := by
    simp [ofMembers, Members.optionalWord, Printed.given_members, printed, Printed.ofOptionalWord,
      optionalWord?_value]

theorem PrintsSection.sound_section {σ : Type} {shape : Shape} {of : Members → σ}
    {print : σ → String} {printed : σ → List Printed} (h : PrintsSection shape of print printed)
    {name : String} (hname : IsPlain name.toList) (r : σ) :
    Printed.Sound ⟨name, .object (Printed.members (printed r)), print r⟩ where
  name := hname
  text := by
    rw [h.line]
    exact Printed.written_object (h.sound r)

def printed (c : Config) : List Printed := [
  ⟨"display", .object (Printed.members c.display.printed), c.display.print⟩,
  ⟨"memory", .object (Printed.members c.memory.printed), c.memory.print⟩,
  ⟨"audio", .object (Printed.members c.audio.printed), c.audio.print⟩,
  ⟨"hotkeys", .object (Printed.members c.hotkeys.printed), c.hotkeys.print⟩]

variable (c : Config)

theorem sound_printed : ∀ m ∈ c.printed, m.Sound := by
  simp only [printed, List.forall_mem_cons]
  exact ⟨Display.printsSection.sound_section (by decide) c.display,
    AddressSpace.printsSection.sound_section (by decide) c.memory,
    Audio.printsSection.sound_section (by decide) c.audio,
    Hotkeys.printsSection.sound_section (by decide) c.hotkeys, nofun⟩

theorem isDocument_printed : IsDocument (Printed.members c.printed) := by
  have hdisplay : IsSection Display.shape _ := ⟨_, rfl, Display.printsSection.fit c.display⟩
  have hmemory : IsSection AddressSpace.shape _ := ⟨_, rfl, AddressSpace.printsSection.fit c.memory⟩
  have haudio : IsSection Audio.shape _ := ⟨_, rfl, Audio.printsSection.fit c.audio⟩
  have hhotkeys : IsSection Hotkeys.shape _ := ⟨_, rfl, Hotkeys.printsSection.fit c.hotkeys⟩
  apply Printed.fit_members
  · simp [printed]
  · simp [printed, sections, hdisplay, hmemory, haudio, hhotkeys]

theorem ofMembers_printed : ofMembers (Printed.members c.printed) = c := by
  simp [ofMembers, Members.inside, Printed.given_members, printed, Display.printsSection.of_eq,
    AddressSpace.printsSection.of_eq, Audio.printsSection.of_eq, Hotkeys.printsSection.of_eq]

theorem written_printed : (Value.object (Printed.members c.printed)).Written c.print :=
  Printed.written_object c.sound_printed

theorem read_print : read c.print = .ok c := by
  rw [read_of_document c.written_printed c.isDocument_printed, ofMembers_printed]

theorem print_injective : Function.Injective print := by
  intro c c' h
  have hread := read_print c
  rw [h, read_print c'] at hread
  cases hread
  rfl

theorem load_toUTF8 (text : String) : load (some text.toUTF8) = parse text := by
  have hvalid : String.fromUTF8? text.toUTF8 = some text := by
    rw [String.fromUTF8?, String.toUTF8_eq_toByteArray, dif_pos text.isValidUTF8]
    rfl
  rw [load, hvalid]

/-- What is printed is parsed as what it was, unless it is invalid, and survives in a file; different
settings are printed as different texts. -/
theorem parse_print :
    (∀ c : Config, parse c.print = c.validate.map fun _ => c) ∧
      (∀ c : Config, load (some c.print.toUTF8) = c.validate.map fun _ => c) ∧
      Function.Injective print := by
  have hparse : ∀ c : Config, parse c.print = c.validate.map fun _ => c := by
    intro c
    rw [parse_of_document c.written_printed c.isDocument_printed, ofMembers_printed]
  refine ⟨hparse, fun c => ?_, print_injective⟩
  rw [load_toUTF8, hparse]

end GuestHost.Config
