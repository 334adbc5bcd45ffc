import GuestHost.Config.Reader
import GuestHost.Proofs.Display.Compositor
import GuestHost.Proofs.Vm
import Mathlib.Tactic.SplitIfs

/-! The limits that settings must keep, over the unbounded integers. The checks test exactly these,
and settings that pass them have sizes that neither wrap around nor saturate. -/
namespace GuestHost.Config

structure Valid (c : Config) : Prop where
  width : 0 < c.display.width.toNat
  height : 0 < c.display.height.toNat
  area : c.display.width.toNat * c.display.height.toNat ≤ 4096 * 4096
  chunk_pos : 1 ≤ c.audio.chunkFrames.toNat
  chunk_le : c.audio.chunkFrames.toNat ≤ 65536
  header : c.memory.reservedHeader.toNat < c.memory.size.toNat

/-- The limit that each defect is about is not kept. -/
def Breaks (c : Config) : Defect → Prop
  | .emptyDisplay => c.display.width.toNat = 0 ∨ c.display.height.toNat = 0
  | .largeDisplay => 4096 * 4096 < c.display.width.toNat * c.display.height.toNat
  | .emptyChunk => c.audio.chunkFrames.toNat = 0
  | .largeChunk => 65536 < c.audio.chunkFrames.toNat
  | .largeHeader => c.memory.size.toNat ≤ c.memory.reservedHeader.toNat

instance (c : Config) : DecidablePred c.Breaks
  | .emptyDisplay => inferInstanceAs (Decidable (_ ∨ _))
  | .largeDisplay => inferInstanceAs (Decidable (_ < _))
  | .emptyChunk => inferInstanceAs (Decidable (_ = _))
  | .largeChunk => inferInstanceAs (Decidable (_ < _))
  | .largeHeader => inferInstanceAs (Decidable (_ ≤ _))

/-- In the order in which they are looked for. -/
def Defect.all : List Defect :=
  [.emptyDisplay, .largeDisplay, .emptyChunk, .largeChunk, .largeHeader]

theorem Defect.mem_all (d : Defect) : d ∈ all := by
  cases d <;> decide

/-- Of the limits that are not kept this one comes first. -/
def BreaksFirst (c : Config) (d : Defect) : Prop :=
  c.Breaks d ∧ ∃ before after, Defect.all = before ++ d :: after ∧ ∀ d' ∈ before, ¬c.Breaks d'

section Sizes

variable {d : Display} {c : Config}

/-- Only the last of the two products can be too large. -/
theorem Display.layerLength?_eq (d : Display) : d.layerLength? =
    if 4 * d.width.toNat * d.height.toNat < Word.bound then
      some (4 * d.width.toNat * d.height.toNat)
    else none := by
  have hwidth := d.width.toNat_lt
  have hheight := d.height.toNat_lt
  have harea : d.width.toNat * d.height.toNat < Word.bound := by
    have hle := Nat.mul_lt_mul'' hwidth hheight
    rw [Word.bound]
    omega
  have hcomm : d.width.toNat * d.height.toNat * 4 = 4 * d.width.toNat * d.height.toNat := by
    rw [Nat.mul_comm _ 4, Nat.mul_assoc]
  rw [layerLength?, Word.mul?, if_pos harea, Option.bind_some, Word.mul?, hcomm]

theorem Display.layerLength?_eq_none_iff :
    d.layerLength? = none ↔ Word.bound ≤ 4 * d.width.toNat * d.height.toNat := by
  rw [layerLength?_eq]
  split_ifs with h
  · exact iff_of_false nofun (Nat.not_le.mpr h)
  · exact iff_of_true rfl (Nat.le_of_not_lt h)

theorem Display.layerLength_of_none (h : d.layerLength? = none) :
    d.layerLength = Word.bound - 1 := by
  rw [layerLength, h]
  rfl

theorem Display.layerLength?_of_le (h : d.width.toNat * d.height.toNat ≤ 4096 * 4096) :
    d.layerLength? = some (4 * d.width.toNat * d.height.toNat) := by
  have hbound : 4 * d.width.toNat * d.height.toNat < Word.bound := by
    rw [Nat.mul_assoc, Word.bound]
    omega
  rw [layerLength?_eq, if_pos hbound]

theorem Display.fits_iff : d.fits = true ↔ d.width.toNat * d.height.toNat ≤ 4096 * 4096 := by
  unfold fits
  cases hl : d.layerLength? with
  | none =>
    have hlarge := layerLength?_eq_none_iff.mp hl
    rw [Nat.mul_assoc, Word.bound] at hlarge
    exact iff_of_false nofun (by omega)
  | some n =>
    rw [layerLength?_eq] at hl
    split_ifs at hl with h
    cases hl
    rw [decide_eq_true_iff, maxLayerLength, Nat.mul_assoc]
    omega

end Sizes

section Checks

variable {c : Config} {d : Defect} {e : Error}

theorem breaks_emptyDisplay_iff :
    c.Breaks .emptyDisplay ↔ c.display.width = 0 ∨ c.display.height = 0 := by
  rw [← UInt32.toNat_inj, ← UInt32.toNat_inj]
  rfl

theorem breaks_largeDisplay_iff : c.Breaks .largeDisplay ↔ (!c.display.fits) = true := by
  rw [Bool.not_eq_true', ← Bool.not_eq_true, Display.fits_iff]
  exact Nat.not_le.symm

theorem breaks_emptyChunk_iff : c.Breaks .emptyChunk ↔ c.audio.chunkFrames = 0 := by
  rw [← UInt32.toNat_inj]
  rfl

theorem breaks_largeChunk_iff :
    c.Breaks .largeChunk ↔ maxChunkFrames < c.audio.chunkFrames.toNat :=
  .rfl

theorem breaks_largeHeader_iff :
    c.Breaks .largeHeader ↔ c.memory.size ≤ c.memory.reservedHeader :=
  .rfl

/-- The checks go through the limits one by one. -/
theorem defect?_eq_find? (c : Config) : c.defect? = Defect.all.find? fun d => c.Breaks d := by
  simp only [defect?, Defect.all, List.find?_cons, List.find?_nil, breaks_emptyDisplay_iff,
    breaks_largeDisplay_iff, breaks_emptyChunk_iff, breaks_largeChunk_iff, breaks_largeHeader_iff]
  split_ifs <;> simp [*]

theorem defect?_eq_some_iff : c.defect? = some d ↔ c.BreaksFirst d := by
  rw [defect?_eq_find?, List.find?_eq_some_iff_append, decide_eq_true_iff]
  simp only [Bool.not_eq_true', decide_eq_false_iff_not, BreaksFirst]

theorem valid_iff : c.Valid ↔ ∀ d, ¬c.Breaks d := by
  constructor
  · rintro ⟨hwidth, hheight, harea, hpos, hle, hheader⟩ d
    cases d <;> simp only [Breaks] <;> omega
  · intro h
    have hdisplay := h .emptyDisplay
    have harea := h .largeDisplay
    have hpos := h .emptyChunk
    have hle := h .largeChunk
    have hheader := h .largeHeader
    simp only [Breaks] at hdisplay harea hpos hle hheader
    constructor <;> omega

theorem defect?_eq_none_iff : c.defect? = none ↔ c.Valid := by
  rw [defect?_eq_find?, List.find?_eq_none, valid_iff]
  simp only [Defect.mem_all, forall_const, decide_eq_true_iff]

theorem validate_eq_ok_iff : c.validate = .ok () ↔ c.Valid := by
  rw [← defect?_eq_none_iff, validate]
  cases c.defect? with
  | none => exact iff_of_true rfl rfl
  | some d => exact iff_of_false nofun nofun

theorem validate_eq_error_iff :
    c.validate = .error e ↔ ∃ d, e = .invalid d.message ∧ c.BreaksFirst d := by
  simp only [← defect?_eq_some_iff, validate]
  cases c.defect? with
  | none => exact iff_of_false nofun fun ⟨d, _, hd⟩ => nomatch hd
  | some d =>
    constructor
    · rintro ⟨⟩
      exact ⟨d, rfl, rfl⟩
    · rintro ⟨_, rfl, ⟨⟩⟩
      rfl

theorem valid_default : Valid {} := by
  constructor <;> decide

theorem valid_of_parse {text : String} (h : parse text = .ok c) : c.Valid := by
  unfold parse at h
  cases hr : read text with
  | error e =>
    rw [hr] at h
    cases h
  | ok c' =>
    cases hv : c'.validate with
    | error e =>
      simp only [hr, bind, Except.bind, hv] at h
      cases h
    | ok a =>
      simp only [hr, bind, Except.bind, hv] at h
      cases h
      exact validate_eq_ok_iff.mp hv

theorem valid_of_load {content : Option ByteArray} (h : load content = .ok c) : c.Valid := by
  unfold load at h
  split at h
  · cases h
  · split at h
    · cases h
    · exact valid_of_parse h

end Checks

/-- How far a pull for this many frames comes hangs on one read, of eight bytes a frame. -/
theorem result_pullChunk {vm vm' : Vm} {ptr : UInt32} {t : List Output} {frames : Nat}
    (h : Vm.samplesAddress vm = ⟨.ok (some ptr), vm', t⟩) (hframes : frames ≤ 65536)
    (chunk : Chunk) : (Vm.pullChunk frames (vm, chunk)).result =
      (Vm.read ptr (8 * frames) vm').result.map fun _ => () := by
  have hptr := ptr.toNat_lt
  have hlen : 8 * frames = frames * 2 * 4 := by omega
  have hbound : ptr.toNat + frames * 2 * 4 < Word.bound := by
    rw [Word.bound]
    omega
  rw [hlen, Vm.read]
  by_cases hfits : ptr.toNat + frames * 2 * 4 ≤ vm'.memory.size
  · rw [Vm.pullChunk_of_le frames chunk h hfits hbound, Memory.read_of_le hfits hbound]
    rfl
  · rw [Vm.pullChunk_of_lt frames chunk h (by omega), Memory.read_of_lt (by omega)]
    rfl

/-- The sizes that follow from settings, without wrapping around and without saturation. -/
structure SizesExact (c : Config) : Prop where
  layer? : c.display.layerLength? = some (4 * c.display.width.toNat * c.display.height.toNat)
  layer : c.display.layerLength = 4 * c.display.width.toNat * c.display.height.toNat
  layer_le : c.display.layerLength ≤ 0x4000000
  rom : c.memory.romCapacity + c.memory.reservedHeader.toNat = c.memory.size.toNat
  rom_pos : 1 ≤ c.memory.romCapacity
  pull : ∀ {vm vm' : Vm} {ptr : UInt32} {t : List Output} (chunk : Chunk),
    Vm.samplesAddress vm = ⟨.ok (some ptr), vm', t⟩ →
      (Vm.pullChunk c.audio.chunkFrames.toNat (vm, chunk)).result =
        (Vm.read ptr (8 * c.audio.chunkFrames.toNat) vm').result.map fun _ => ()
  pull_le : 8 * c.audio.chunkFrames.toNat ≤ 0x80000

theorem Valid.sizesExact {c : Config} (h : c.Valid) : c.SizesExact := by
  have hlength := Display.layerLength?_of_le h.area
  have hlayer := Display.layerLength_eq (Option.isSome_of_eq_some hlength)
  have hheader := h.header
  have hchunk := h.chunk_le
  refine ⟨hlength, hlayer, ?_, ?_, ?_, fun chunk hask => result_pullChunk hask hchunk chunk, ?_⟩
  · have harea := h.area
    rw [hlayer, Nat.mul_assoc]
    omega
  · rw [AddressSpace.romCapacity]
    omega
  · rw [AddressSpace.romCapacity]
    omega
  · omega

/-- Settings are accepted if they keep all limits, and refused for the first limit that they break.
What has been parsed or loaded keeps them all, and its sizes are exact. -/
theorem validate_exact :
    (∀ c : Config, c.validate = .ok () ↔ c.Valid) ∧
    (∀ (c : Config) e,
      c.validate = .error e ↔ ∃ d, e = .invalid d.message ∧ c.BreaksFirst d) ∧
    (∀ text c, parse text = .ok c → c.Valid) ∧
    (∀ content c, load content = .ok c → c.Valid) ∧
    (∀ c : Config, c.Valid → c.SizesExact) ∧
    ∀ d : Display, (d.layerLength? = none ↔ Word.bound ≤ 4 * d.width.toNat * d.height.toNat) ∧
      (d.layerLength? = none → d.layerLength = Word.bound - 1) :=
  ⟨fun _ => validate_eq_ok_iff, fun _ _ => validate_eq_error_iff, fun _ _ => valid_of_parse,
    fun _ _ => valid_of_load, fun _ => Valid.sizesExact,
    fun _ => ⟨Display.layerLength?_eq_none_iff, Display.layerLength_of_none⟩⟩

/-- The largest settings keep every limit. One more column, together with an empty chunk, is refused
for the display. -/
theorem validate_exact_largest :
    let largest : Config := {
      display := ⟨4096, 4096⟩
      memory := ⟨0xFFFFFFFF, 0xFFFFFFFE⟩
      audio := ⟨65536, 44100⟩ }
    let wider : Config := { largest with display := ⟨4097, 4096⟩, audio := ⟨0, 44100⟩ }
    largest.validate = .ok () ∧ largest.display.layerLength = 0x4000000 ∧
      largest.memory.romCapacity = 1 ∧
      wider.validate = .error (.invalid "display area exceeds 4096x4096 pixels") := by
  intro largest wider
  obtain ⟨haccept, hrefuse, -, -, hsizes, -⟩ := validate_exact
  have hvalid : largest.Valid := by constructor <;> decide
  have hfirst : wider.BreaksFirst .largeDisplay :=
    ⟨by decide, [.emptyDisplay], [.emptyChunk, .largeChunk, .largeHeader], rfl, by decide⟩
  exact ⟨(haccept _).mpr hvalid, (hsizes _ hvalid).layer.trans (by decide), by decide,
    (hrefuse _ _).mpr ⟨_, rfl, hfirst⟩⟩

end GuestHost.Config
