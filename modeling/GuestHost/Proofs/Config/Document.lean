import GuestHost.Config.Reader
import GuestHost.Proofs.Json.Record
import GuestHost.Proofs.Json.Write

/-! Settings are read field by field. What a document says of a field decides that field alone, in
whatever order and company it says it; what it does not say is left at its default. -/
namespace GuestHost

namespace Json.Members

/-- The members of a section; a section that is not given has none. -/
def inside (ms : Members) (name : String) : Members :=
  match ms.given name with
  | some (.object ds) => ds
  | _ => []

def word (ms : Members) (name : String) (default : UInt32) : UInt32 :=
  ((ms.given name).bind Value.word?).getD default

def optionalWord (ms : Members) (name : String) (default : Option UInt32) : Option UInt32 :=
  ((ms.given name).bind Value.optionalWord?).getD default

end Json.Members

namespace Config

open Json

/-- The values of a field that holds a word. -/
def IsWord (v : Value) : Prop :=
  v.word?.isSome

def IsOptionalWord (v : Value) : Prop :=
  v.optionalWord?.isSome

def Display.shape : Shape :=
  [("width", IsWord), ("height", IsWord)]

def AddressSpace.shape : Shape :=
  [("address_space", IsWord), ("reserved_header", IsWord)]

def Audio.shape : Shape :=
  [("chunk_frames", IsWord), ("sample_rate", IsWord)]

def Hotkeys.shape : Shape :=
  [("save", IsOptionalWord), ("restore", IsOptionalWord), ("reset", IsOptionalWord)]

/-- The sections of a document. -/
def sections : List (String × Shape) :=
  [("display", Display.shape), ("memory", AddressSpace.shape), ("audio", Audio.shape),
    ("hotkeys", Hotkeys.shape)]

def IsSection (shape : Shape) (v : Value) : Prop :=
  ∃ ms : Members, v = .object ms ∧ ms.Fit shape

/-- An object with some of the sections, each of them with some of its fields. -/
def IsDocument (ms : Members) : Prop :=
  ms.Fit (sections.map fun s => (s.1, IsSection s.2))

/-- The document gives the field this value. -/
def Lists (ms : Members) (name field : String) (v : Value) : Prop :=
  ∃ ds : Members, ms.Gives name (.object ds) ∧ ds.Gives field v

/-- A known key comes twice within one object. -/
inductive Repeats (ms : Members) : Prop where
  | ofSection {s} : s ∈ sections → 1 < ms.times s.1 → Repeats ms
  | ofField {s ds p} : s ∈ sections → ms.Gives s.1 (.object ds) → p ∈ s.2 →
      1 < Members.times ds p.1 → Repeats ms

def Display.ofMembers (ms : Members) : Display where
  width := ms.word "width" ({} : Display).width
  height := ms.word "height" ({} : Display).height

def AddressSpace.ofMembers (ms : Members) : AddressSpace where
  size := ms.word "address_space" ({} : AddressSpace).size
  reservedHeader := ms.word "reserved_header" ({} : AddressSpace).reservedHeader

def Audio.ofMembers (ms : Members) : Audio where
  chunkFrames := ms.word "chunk_frames" ({} : Audio).chunkFrames
  sampleRate := ms.word "sample_rate" ({} : Audio).sampleRate

def Hotkeys.ofMembers (ms : Members) : Hotkeys where
  save := ms.optionalWord "save" ({} : Hotkeys).save
  restore := ms.optionalWord "restore" ({} : Hotkeys).restore
  reset := ms.optionalWord "reset" ({} : Hotkeys).reset

/-- The settings that a document lists. -/
def ofMembers (ms : Members) : Config where
  display := .ofMembers (ms.inside "display")
  memory := .ofMembers (ms.inside "memory")
  audio := .ofMembers (ms.inside "audio")
  hotkeys := .ofMembers (ms.inside "hotkeys")

section Fields

variable {σ β : Type}

theorem steady_word (name : String) (set : UInt32 → σ → σ) :
    Steady (Field.of name readWord set).read :=
  Field.steady_of steady_readWord name set

theorem steady_optionalWord (name : String) (set : Option UInt32 → σ → σ) :
    Steady (Field.of name readOptionalWord set).read :=
  Field.steady_of steady_readOptionalWord name set

theorem exists_on_of_isSome {α : Type} {R : Reader α} (hR : Steady R) {v : Value}
    (h : (Reader.on R v).toOption.isSome) (name : String) (set : α → σ → σ) :
    ∃ change, Reader.on (Field.of name R set).read v = .ok change := by
  rw [Field.on_of hR]
  cases hread : Reader.on R v with
  | error e => simp [hread, Except.toOption] at h
  | ok a => exact ⟨set a, rfl⟩

theorem reads_word (name : String) (set : UInt32 → σ → σ) (v : Value) (h : IsWord v) :
    ∃ change, Reader.on (Field.of name readWord set).read v = .ok change := by
  rw [IsWord, ← toOption_on_readWord] at h
  exact exists_on_of_isSome steady_readWord h name set

theorem reads_optionalWord (name : String) (set : Option UInt32 → σ → σ) (v : Value)
    (h : IsOptionalWord v) :
    ∃ change, Reader.on (Field.of name readOptionalWord set).read v = .ok change := by
  rw [IsOptionalWord, ← toOption_on_readOptionalWord] at h
  exact exists_on_of_isSome steady_readOptionalWord h name set

theorem spares_word (name : String) {set : UInt32 → σ → σ} {π : σ → β}
    (h : ∀ w r, π (set w r) = π r) : Schema.Spares (.of name readWord set) π :=
  Schema.spares_of steady_readWord name h

theorem spares_optionalWord (name : String) {set : Option UInt32 → σ → σ} {π : σ → β}
    (h : ∀ w r, π (set w r) = π r) : Schema.Spares (.of name readOptionalWord set) π :=
  Schema.spares_of steady_readOptionalWord name h

theorem reading_word (ms : Members) (name : String) (default : UInt32) :
    Schema.reading readWord ms name default = ms.word name default := by
  simp only [Schema.reading, Members.word, toOption_on_readWord]

theorem reading_optionalWord (ms : Members) (name : String) (default : Option UInt32) :
    Schema.reading readOptionalWord ms name default = ms.optionalWord name default := by
  simp only [Schema.reading, Members.optionalWord, toOption_on_readOptionalWord]

end Fields

/-- A schema that reads the sections of one shape: all its fields are of the shape, and what it
reads from an object is what the object lists. -/
structure ReadsSection {σ : Type} (S : Schema σ) (shape : Shape) (of : Members → σ) : Prop where
  steady : ∀ f ∈ S.fields, Steady f.read
  follows : S.Follows shape
  known : ∀ p ∈ shape, (S.field? p.1).isSome
  eq_of : ∀ {ds r}, Reader.on S.read (.object ds) = .ok r → r = of ds
  nil : of [] = S.initial

/-- A record of two words, and what an object lists for it. -/
structure Pair {σ : Type} (S : Schema σ) (n₁ n₂ : String) (π₁ π₂ : σ → UInt32)
    (of : Members → σ) : Prop where
  ne : n₁ ≠ n₂
  fields : ∃ set₁ set₂, S.fields = [.of n₁ readWord set₁, .of n₂ readWord set₂] ∧
    (∀ w r, π₁ (set₁ w r) = w ∧ π₂ (set₁ w r) = π₂ r) ∧
    ∀ w r, π₁ (set₂ w r) = π₁ r ∧ π₂ (set₂ w r) = w
  ext : ∀ {r r'}, π₁ r = π₁ r' → π₂ r = π₂ r' → r = r'
  listed : ∀ ms, π₁ (of ms) = ms.word n₁ (π₁ S.initial) ∧ π₂ (of ms) = ms.word n₂ (π₂ S.initial)

namespace Pair

variable {σ : Type} {S : Schema σ} {n₁ n₂ : String} {π₁ π₂ : σ → UInt32} {of : Members → σ}
  (h : Pair S n₁ n₂ π₁ π₂ of)
include h

theorem steady : ∀ f ∈ S.fields, Steady f.read := by
  obtain ⟨set₁, set₂, hfields, -⟩ := h.fields
  rw [hfields]
  exact List.forall_iff_forall_mem.mp ⟨steady_word n₁ set₁, steady_word n₂ set₂⟩

theorem reads {ms : Members} {r : σ} (hr : Reader.on S.read (.object ms) = .ok r) :
    π₁ r = ms.word n₁ (π₁ S.initial) ∧ π₂ r = ms.word n₂ (π₂ S.initial) := by
  obtain ⟨set₁, set₂, hfields, hset₁, hset₂⟩ := h.fields
  have hfirst : S.Sets n₁ readWord π₁ := by
    have hown : S.field? n₁ = some (.of n₁ readWord set₁) := by
      simp [Schema.field?, hfields, Field.of]
    apply Schema.sets_of_fields hown fun w r => (hset₁ w r).1
    rw [hfields]
    exact ⟨.inl rfl, .inr (spares_word n₂ fun w r => (hset₂ w r).1)⟩
  have hsecond : S.Sets n₂ readWord π₂ := by
    have hown : S.field? n₂ = some (.of n₂ readWord set₂) := by
      simp [Schema.field?, hfields, Field.of, h.ne]
    apply Schema.sets_of_fields hown fun w r => (hset₂ w r).2
    rw [hfields]
    exact ⟨.inr (spares_word n₁ fun w r => (hset₁ w r).2), .inl rfl⟩
  rw [← reading_word, ← reading_word]
  exact ⟨hfirst.component_of_on steady_readWord h.steady hr,
    hsecond.component_of_on steady_readWord h.steady hr⟩

theorem readsSection : ReadsSection S [(n₁, IsWord), (n₂, IsWord)] of where
  steady := h.steady
  follows := by
    obtain ⟨set₁, set₂, hfields, -⟩ := h.fields
    rw [Schema.Follows, hfields]
    exact ⟨⟨_, .head _, rfl, reads_word n₁ set₁⟩, ⟨_, .tail _ (.head _), rfl, reads_word n₂ set₂⟩⟩
  known := by
    obtain ⟨set₁, set₂, hfields, -⟩ := h.fields
    simp [Schema.field?, hfields, Field.of]
  eq_of := by
    intro ds r hr
    obtain ⟨hfirst, hsecond⟩ := h.reads hr
    obtain ⟨hfirst', hsecond'⟩ := h.listed ds
    exact h.ext (hfirst.trans hfirst'.symm) (hsecond.trans hsecond'.symm)
  nil := h.ext (h.listed []).1 (h.listed []).2

end Pair

theorem Display.pair : Pair schema "width" "height" width height ofMembers where
  ne := by decide
  fields := ⟨_, _, rfl, fun _ _ => ⟨rfl, rfl⟩, fun _ _ => ⟨rfl, rfl⟩⟩
  ext {r r'} h₁ h₂ := by
    cases r
    cases r'
    congr
  listed _ := ⟨rfl, rfl⟩

theorem AddressSpace.pair :
    Pair schema "address_space" "reserved_header" size reservedHeader ofMembers where
  ne := by decide
  fields := ⟨_, _, rfl, fun _ _ => ⟨rfl, rfl⟩, fun _ _ => ⟨rfl, rfl⟩⟩
  ext {r r'} h₁ h₂ := by
    cases r
    cases r'
    congr
  listed _ := ⟨rfl, rfl⟩

theorem Audio.pair : Pair schema "chunk_frames" "sample_rate" chunkFrames sampleRate ofMembers where
  ne := by decide
  fields := ⟨_, _, rfl, fun _ _ => ⟨rfl, rfl⟩, fun _ _ => ⟨rfl, rfl⟩⟩
  ext {r r'} h₁ h₂ := by
    cases r
    cases r'
    congr
  listed _ := ⟨rfl, rfl⟩

namespace Hotkeys

theorem steady : ∀ f ∈ schema.fields, Steady f.read :=
  List.forall_iff_forall_mem.mp
    ⟨steady_optionalWord _ _, steady_optionalWord _ _, steady_optionalWord _ _⟩

theorem follows : schema.Follows shape :=
  ⟨⟨_, .head _, rfl, reads_optionalWord _ _⟩, ⟨_, .tail _ (.head _), rfl, reads_optionalWord _ _⟩,
    ⟨_, .tail _ (.tail _ (.head _)), rfl, reads_optionalWord _ _⟩⟩

theorem eq_ofMembers {ms : Members} {h : Hotkeys}
    (hread : Reader.on schema.read (.object ms) = .ok h) : h = ofMembers ms := by
  have hsave : schema.Sets "save" readOptionalWord save :=
    Schema.sets_of_fields rfl (fun _ _ => rfl) ⟨.inl rfl, .inr (spares_optionalWord _ fun _ _ => rfl),
      .inr (spares_optionalWord _ fun _ _ => rfl)⟩
  have hrestore : schema.Sets "restore" readOptionalWord restore :=
    Schema.sets_of_fields rfl (fun _ _ => rfl) ⟨.inr (spares_optionalWord _ fun _ _ => rfl), .inl rfl,
      .inr (spares_optionalWord _ fun _ _ => rfl)⟩
  have hreset : schema.Sets "reset" readOptionalWord reset :=
    Schema.sets_of_fields rfl (fun _ _ => rfl) ⟨.inr (spares_optionalWord _ fun _ _ => rfl),
      .inr (spares_optionalWord _ fun _ _ => rfl), .inl rfl⟩
  have h₁ := hsave.component_of_on steady_readOptionalWord steady hread
  have h₂ := hrestore.component_of_on steady_readOptionalWord steady hread
  have h₃ := hreset.component_of_on steady_readOptionalWord steady hread
  rw [reading_optionalWord] at h₁ h₂ h₃
  cases h
  cases h₁
  cases h₂
  cases h₃
  rfl

end Hotkeys

theorem Hotkeys.readsSection : ReadsSection schema shape ofMembers :=
  ⟨steady, follows, by decide, eq_ofMembers, rfl⟩

namespace ReadsSection

variable {σ : Type} {S : Schema σ} {shape : Shape} {of : Members → σ} (h : ReadsSection S shape of)
include h

theorem steady_read : Steady S.read :=
  Schema.steady_read h.steady

theorem on_object {ds : Members} (hds : ds.Fit shape) :
    Reader.on S.read (.object ds) = .ok (of ds) := by
  obtain ⟨r, hr⟩ := (Schema.exists_on_object_iff h.steady ds).mpr (Schema.accepts_of_fit h.follows hds)
  rw [hr, h.eq_of hr]

theorem reads {τ : Type} (name : String) (set : σ → τ → τ) (v : Value) (hv : IsSection shape v) :
    ∃ change, Reader.on (Field.of name S.read set).read v = .ok change := by
  obtain ⟨ds, rfl, hds⟩ := hv
  refine exists_on_of_isSome h.steady_read ?_ name set
  rw [h.on_object hds]
  rfl

theorem spares {τ β : Type} (name : String) {set : σ → τ → τ} {π : τ → β}
    (hset : ∀ a r, π (set a r) = π r) : Schema.Spares (.of name S.read set) π :=
  Schema.spares_of h.steady_read name hset

/-- A section that is not given is like one that lists nothing. -/
theorem reading_eq {ms : Members} {name : String}
    (hms : ∀ v, ms.given name = some v → IsSection shape v) :
    Schema.reading S.read ms name S.initial = of (ms.inside name) := by
  unfold Schema.reading Members.inside
  cases hv : ms.given name with
  | none => exact h.nil.symm
  | some v =>
    obtain ⟨ds, rfl, hds⟩ := hms v hv
    rw [Option.bind_some, h.on_object hds]
    rfl

/-- A section that is read at all gives no field twice. -/
theorem times_le_one {τ : Type} (name : String) (set : σ → τ → τ) {ds : Members} {change : τ → τ}
    (hread : Reader.on (Field.of name S.read set).read (.object ds) = .ok change) :
    ∀ p ∈ shape, ds.times p.1 ≤ 1 := by
  intro p hp
  rw [Field.on_of h.steady_read] at hread
  obtain ⟨r, hr, -⟩ := map_eq_ok_iff.mp hread
  have haccepts := (Schema.exists_on_object_iff h.steady ds).mp ⟨r, hr⟩
  exact haccepts.once p.1 (h.known p hp)

end ReadsSection

theorem steady : ∀ f ∈ schema.fields, Steady f.read :=
  List.forall_iff_forall_mem.mp
    ⟨Field.steady_of Display.pair.readsSection.steady_read _ _,
      Field.steady_of AddressSpace.pair.readsSection.steady_read _ _,
      Field.steady_of Audio.pair.readsSection.steady_read _ _,
      Field.steady_of Hotkeys.readsSection.steady_read _ _⟩

theorem follows : schema.Follows (sections.map fun s => (s.1, IsSection s.2)) :=
  ⟨⟨_, .head _, rfl, Display.pair.readsSection.reads _ _⟩,
    ⟨_, .tail _ (.head _), rfl, AddressSpace.pair.readsSection.reads _ _⟩,
    ⟨_, .tail _ (.tail _ (.head _)), rfl, Audio.pair.readsSection.reads _ _⟩,
    ⟨_, .tail _ (.tail _ (.tail _ (.head _))), rfl, Hotkeys.readsSection.reads _ _⟩⟩

theorem isSection_of_given {ms : Members} (hd : IsDocument ms) {s : String × Shape}
    (hs : s ∈ sections) {v : Value} (hv : ms.given s.1 = some v) : IsSection s.2 v :=
  hd.of_given (List.mem_map_of_mem hs) hv

section Document

variable {ms : Members} {c : Config}

/-- A section is read as what it lists. -/
theorem ReadsSection.component {σ : Type} {S : Schema σ} {shape : Shape} {of : Members → σ}
    (h : ReadsSection S shape of) {name : String} {π : Config → σ}
    (hsets : schema.Sets name S.read π) (hinitial : π schema.initial = S.initial)
    (hs : (name, shape) ∈ sections) (hd : IsDocument ms)
    (hread : Reader.on schema.read (.object ms) = .ok c) : π c = of (ms.inside name) := by
  have hreading := hsets.component_of_on h.steady_read Config.steady hread
  rw [hreading, hinitial]
  exact h.reading_eq fun v hv => isSection_of_given hd hs hv

/-- Section by section: each is set by its own field alone. -/
theorem eq_ofMembers (hd : IsDocument ms) (h : Reader.on schema.read (.object ms) = .ok c) :
    c = ofMembers ms := by
  have hdisplay : schema.Sets "display" Display.schema.read display :=
    Schema.sets_of_fields rfl (fun _ _ => rfl) ⟨.inl rfl,
      .inr (AddressSpace.pair.readsSection.spares _ fun _ _ => rfl),
      .inr (Audio.pair.readsSection.spares _ fun _ _ => rfl),
      .inr (Hotkeys.readsSection.spares _ fun _ _ => rfl)⟩
  have hmemory : schema.Sets "memory" AddressSpace.schema.read memory :=
    Schema.sets_of_fields rfl (fun _ _ => rfl)
      ⟨.inr (Display.pair.readsSection.spares _ fun _ _ => rfl), .inl rfl,
      .inr (Audio.pair.readsSection.spares _ fun _ _ => rfl),
      .inr (Hotkeys.readsSection.spares _ fun _ _ => rfl)⟩
  have haudio : schema.Sets "audio" Audio.schema.read audio :=
    Schema.sets_of_fields rfl (fun _ _ => rfl)
      ⟨.inr (Display.pair.readsSection.spares _ fun _ _ => rfl),
      .inr (AddressSpace.pair.readsSection.spares _ fun _ _ => rfl), .inl rfl,
      .inr (Hotkeys.readsSection.spares _ fun _ _ => rfl)⟩
  have hhotkeys : schema.Sets "hotkeys" Hotkeys.schema.read hotkeys :=
    Schema.sets_of_fields rfl (fun _ _ => rfl)
      ⟨.inr (Display.pair.readsSection.spares _ fun _ _ => rfl),
      .inr (AddressSpace.pair.readsSection.spares _ fun _ _ => rfl),
      .inr (Audio.pair.readsSection.spares _ fun _ _ => rfl), .inl rfl⟩
  cases c
  cases Display.pair.readsSection.component hdisplay rfl (.head _) hd h
  cases AddressSpace.pair.readsSection.component hmemory rfl (.tail _ (.head _)) hd h
  cases Audio.pair.readsSection.component haudio rfl (.tail _ (.tail _ (.head _))) hd h
  cases Hotkeys.readsSection.component hhotkeys rfl (.tail _ (.tail _ (.tail _ (.head _)))) hd h
  rfl

variable {text : String} (ht : (Value.object ms).Written text)
include ht

theorem read_of_document (hd : IsDocument ms) : read text = .ok (ofMembers ms) := by
  obtain ⟨c, hc⟩ := (Schema.exists_on_object_iff steady ms).mpr (Schema.accepts_of_fit follows hd)
  rw [read, Schema.readText_of_written steady ht, hc, eq_ofMembers hd hc]

theorem parse_of_document (hd : IsDocument ms) :
    parse text = (ofMembers ms).validate.map fun _ => ofMembers ms := by
  rw [parse, read_of_document ht hd]
  simp only [bind, Except.bind, pure, Except.pure]
  cases (ofMembers ms).validate with
  | error e => rfl
  | ok a => rfl

omit ht in
theorem exists_field {s : String × Shape} (hs : s ∈ sections) :
    ∃ f, schema.field? s.1 = some f ∧ ∀ {ds change},
      Reader.on f.read (.object ds) = .ok change → ∀ p ∈ s.2, Members.times ds p.1 ≤ 1 := by
  simp only [sections, List.mem_cons, List.not_mem_nil, or_false] at hs
  rcases hs with rfl | rfl | rfl | rfl
  · exact ⟨_, rfl, Display.pair.readsSection.times_le_one _ _⟩
  · exact ⟨_, rfl, AddressSpace.pair.readsSection.times_le_one _ _⟩
  · exact ⟨_, rfl, Audio.pair.readsSection.times_le_one _ _⟩
  · exact ⟨_, rfl, Hotkeys.readsSection.times_le_one _ _⟩

/-- What is read of an object without being refused repeats nothing. -/
theorem error_of_repeats (hr : Repeats ms) : ∃ e, parse text = .error e := by
  cases hread : Reader.on schema.read (.object ms) with
  | error e => exact ⟨_, by rw [parse, read, Schema.readText_of_written steady ht, hread]; rfl⟩
  | ok c =>
    have haccepts := (Schema.exists_on_object_iff steady ms).mp ⟨c, hread⟩
    cases hr with
    | ofSection hs htimes =>
      obtain ⟨f, hf, -⟩ := exists_field hs
      have honce := haccepts.once _ (by rw [hf]; rfl)
      have hlt := Nat.lt_of_lt_of_le htimes honce
      exact absurd hlt (Nat.lt_irrefl 1)
    | ofField hs hgives hp htimes =>
      obtain ⟨f, hf, hfield⟩ := exists_field hs
      obtain ⟨m, hm, hname, hv⟩ := hgives
      obtain ⟨change, hchange⟩ := haccepts.read m hm _ f hname hf
      rw [hv] at hchange
      have hlt := Nat.lt_of_lt_of_le htimes (hfield hchange _ hp)
      exact absurd hlt (Nat.lt_irrefl 1)

end Document

/-- In a document the look-ups find what is listed. -/
theorem lists_iff {ms : Members} (hd : IsDocument ms) {s : String × Shape} (hs : s ∈ sections)
    {p : String × (Value → Prop)} (hp : p ∈ s.2) {v : Value} :
    Lists ms s.1 p.1 v ↔ (ms.inside s.1).given p.1 = some v := by
  constructor
  · rintro ⟨ds, hsection, hfield⟩
    have hgiven := Members.given_of_gives hsection (hd.once _ (List.mem_map_of_mem hs))
    obtain ⟨ds', hds', hfit⟩ := isSection_of_given hd hs hgiven
    cases hds'
    have hinside : ms.inside s.1 = ds := by
      rw [Members.inside, hgiven]
    rw [hinside]
    exact Members.given_of_gives hfield (hfit.once p hp)
  · intro h
    cases hgiven : ms.given s.1 with
    | none =>
      rw [Members.inside, hgiven] at h
      cases h
    | some v' =>
      obtain ⟨ds, rfl, hfit⟩ := isSection_of_given hd hs hgiven
      rw [Members.inside, hgiven] at h
      exact ⟨ds, Members.gives_of_given hgiven, Members.gives_of_given h⟩

/-- Documents that list the same for all fields. -/
theorem ofMembers_congr {ms ms' : Members} (hd : IsDocument ms) (hd' : IsDocument ms')
    (h : ∀ s ∈ sections, ∀ p ∈ s.2, ∀ v, Lists ms s.1 p.1 v ↔ Lists ms' s.1 p.1 v) :
    ofMembers ms = ofMembers ms' := by
  have hgiven : ∀ s ∈ sections, ∀ p ∈ s.2,
      (ms.inside s.1).given p.1 = (ms'.inside s.1).given p.1 := by
    intro s hs p hp
    apply Option.ext
    intro v
    rw [← lists_iff hd hs hp, ← lists_iff hd' hs hp]
    exact h s hs p hp v
  simp only [sections, Display.shape, AddressSpace.shape, Audio.shape, Hotkeys.shape,
    List.forall_mem_cons, List.not_mem_nil, false_implies, implies_true, and_true] at hgiven
  simp only [ofMembers, Display.ofMembers, AddressSpace.ofMembers, Audio.ofMembers,
    Hotkeys.ofMembers, Members.word, Members.optionalWord, hgiven]

/-- A document is read as the settings that it lists, if they are valid; the order of its keys, its
blanks and whatever else is in it do not matter. No known key may come twice. -/
theorem parse_eq_listed :
    (∀ text ms, (Value.object ms).Written text → IsDocument ms →
      parse text = (ofMembers ms).validate.map fun _ => ofMembers ms) ∧
    (∀ text text' ms ms', (Value.object ms).Written text → (Value.object ms').Written text' →
      IsDocument ms → IsDocument ms' →
      (∀ s ∈ sections, ∀ p ∈ s.2, ∀ v, Lists ms s.1 p.1 v ↔ Lists ms' s.1 p.1 v) →
      parse text = parse text') ∧
    ∀ text ms, (Value.object ms).Written text → Repeats ms → ∃ e, parse text = .error e := by
  refine ⟨fun text ms ht hd => parse_of_document ht hd, ?_, fun text ms ht => error_of_repeats ht⟩
  intro text text' ms ms' ht ht' hd hd' h
  rw [parse_of_document ht hd, parse_of_document ht' hd', ofMembers_congr hd hd' h]

def eight : Literal where
  whole := ⟨[8], by decide, by decide⟩
  unpadded := by decide

/-- Some unknown key, and a section under a key with an escape. -/
def shuffled : Members := [
  (plainPieces ['x'], .list []),
  (.code 0x61 :: plainPieces ['u', 'd', 'i', 'o'],
    .object [(plainPieces "sample_rate".toList, .numeral eight)])]

def shuffledText : String :=
  "\x7b \"x\":[],\"\\u0061udio\":\x7b\"sample_rate\":8\x7d\x7d"

def reversedText : String :=
  "\x7b\"\\u0061udio\":\x7b\"sample_rate\":8\x7d,\"x\":[]\x7d"

theorem written_shuffled : (Value.object shuffled).Written shuffledText ∧
    (Value.object shuffled.reverse).Written reversedText := by
  have hx := (spelled_plain ['x'] (by decide)).append (.token .colon
    (.token .openList (.token .closeList .nil)))
  have hcode : PieceText (.code 0x61) ['\\', 'u', '0', '0', '6', '1'] :=
    .code (.lower (d := 0) (by decide)) (.lower (d := 0) (by decide)) (.lower (d := 6) (by decide))
      (.lower (d := 1) (by decide))
  have hkey := spelled_of_text (.quoted (.cons hcode (piecesText_plain ['u', 'd', 'i', 'o'] (by decide))))
  have hrate := spelled_plain "sample_rate".toList (by decide)
  have height : Spelled [.numeral eight.numeral] ['8'] := spelled_of_text (.numeral .absent)
  have haudio := hkey.append (.token .colon (.token .openObject
    (hrate.append (.token .colon (height.append (.token .closeObject .nil))))))
  constructor
  · exact .token .openObject (.blank (by decide)
      (hx.append (.token .comma (haudio.append (.token .closeObject .nil)))))
  · exact .token .openObject (haudio.append (.token .comma (hx.append (.token .closeObject .nil))))

theorem isDocument_shuffled : IsDocument shuffled := by
  have hx : keyName? (plainPieces ['x']) = some "x" := by decide
  have haudio : keyName? (.code 0x61 :: plainPieces ['u', 'd', 'i', 'o']) = some "audio" := by decide
  have hrate := keyName?_plain "sample_rate"
  have hword : IsWord (.numeral eight) := by
    unfold IsWord
    decide
  have hsection : IsSection Audio.shape
      (.object [(plainPieces "sample_rate".toList, .numeral eight)]) := by
    refine ⟨_, rfl, ?_, by decide, ?_⟩
    · exact List.forall_mem_singleton.mpr ⟨_, hrate⟩
    · intro p hp m hm hname
      rw [List.mem_singleton.mp hm]
      simp only [Audio.shape, List.mem_cons, List.not_mem_nil, or_false] at hp
      rcases hp with rfl | rfl
      · exact hword
      · exact hword
  constructor
  · simp [shuffled, hx, haudio]
  · decide
  · simpa [sections, shuffled, hx, haudio] using hsection

theorem isDocument_reverse {ms : Members} (h : IsDocument ms) : IsDocument ms.reverse where
  named m hm := h.named m (List.mem_reverse.mp hm)
  once p hp := by
    rw [Members.times, List.countP_reverse]
    exact h.once p hp
  fits p hp m hm := h.fits p hp m (List.mem_reverse.mp hm)

theorem lists_reverse {ms : Members} {name field : String} {v : Value} :
    Lists ms name field v ↔ Lists ms.reverse name field v := by
  simp only [Lists, Members.Gives, List.mem_reverse]

/-- A section that is given two times. -/
def twice : Members :=
  [(plainPieces "audio".toList, .null), (plainPieces "audio".toList, .null)]

def twiceText : String :=
  "\x7b\"audio\":null,\"audio\":null\x7d"

theorem written_twice : (Value.object twice).Written twiceText := by
  have haudio := spelled_plain "audio".toList (by decide)
  have hsecond := haudio.append (.token .colon (.token .null (.token .closeObject .nil)))
  have hfirst := haudio.append (.token .colon (.token .null (.token .comma hsecond)))
  exact .token .openObject hfirst

theorem repeats_twice : Repeats twice :=
  .ofSection (s := ("audio", Audio.shape)) (.tail _ (.tail _ (.head _))) (by decide)

theorem parse_eq_listed_shuffled :
    parse shuffledText = .ok { audio := { sampleRate := 8 } } ∧
    parse shuffledText = parse reversedText ∧ ∃ e, parse twiceText = .error e := by
  obtain ⟨hshuffled, hreversed⟩ := written_shuffled
  have hdocument := isDocument_shuffled
  have hlisted : ofMembers shuffled = { audio := { sampleRate := 8 } } := by decide
  refine ⟨?_, ?_, parse_eq_listed.2.2 _ _ written_twice repeats_twice⟩
  · rw [parse_eq_listed.1 _ _ hshuffled hdocument, hlisted]
    decide
  · exact parse_eq_listed.2.1 _ _ _ _ hshuffled hreversed hdocument (isDocument_reverse hdocument)
      fun s hs p hp v => lists_reverse

end Config

end GuestHost
