import GuestHost.Proofs.Memory.Store
import GuestHost.Proofs.Memory.Word
import GuestHost.Proofs.Session.Strict

/-! Two channels in one byte string. Taking them apart undoes putting them together, and samples of
which the bytes hold too little stay as they are. -/
namespace GuestHost.Chunk

variable {bytes : ByteArray} {start frames : Nat} {samples : Array UInt32}

/-- The samples one after the other, the lowest byte of each first. -/
def encodeSamples : List UInt32 → ByteArray
  | [] => .empty
  | v :: rest => Bytes.ofWord32 v ++ encodeSamples rest

def encodeChannel (samples : Array UInt32) : ByteArray :=
  encodeSamples samples.toList

/-- All of the left channel comes first. -/
def encodePlanar (c : Chunk) : ByteArray :=
  encodeChannel c.left ++ encodeChannel c.right

theorem size_encodeSamples (samples : List UInt32) :
    (encodeSamples samples).size = 4 * samples.length := by
  induction samples with
  | nil => rfl
  | cons v rest ih =>
    rw [encodeSamples, ByteArray.size_append, Bytes.size_ofWord32, ih, List.length_cons]
    omega

theorem size_encodeChannel (samples : Array UInt32) :
    (encodeChannel samples).size = 4 * samples.size := by
  rw [encodeChannel, size_encodeSamples, Array.length_toList]

theorem byteAt_encodeSamples {samples : List UInt32} {i k : Nat} (h : i < samples.length)
    (hk : k < 4) :
    Bytes.byteAt (encodeSamples samples) (4 * i + k) =
      Bytes.byteAt (Bytes.ofWord32 samples[i]) k := by
  induction samples generalizing i with
  | nil => cases h
  | cons v rest ih =>
    rw [encodeSamples, Bytes.byteAt_append, Bytes.size_ofWord32]
    cases i with
    | zero =>
      rw [if_pos (by omega), Nat.mul_zero, Nat.zero_add]
      rfl
    | succ i =>
      have hnext : 4 * (i + 1) + k - 4 = 4 * i + k := by omega
      rw [if_neg (by omega), hnext, ih (Nat.lt_of_succ_lt_succ h)]
      rfl

theorem byteAt_encodeChannel {i k : Nat} (h : i < samples.size) (hk : k < 4) :
    Bytes.byteAt (encodeChannel samples) (4 * i + k) =
      Bytes.byteAt (Bytes.ofWord32 samples[i]) k := by
  have hlist : i < samples.toList.length := h
  exact byteAt_encodeSamples hlist hk

/-- Samples are found where they have been put, whatever stands before and behind them. -/
theorem channelAt_encodeChannel (before behind : ByteArray) (samples : Array UInt32) :
    channelAt (before ++ encodeChannel samples ++ behind) before.size samples.size = samples := by
  have hsize := size_encodeChannel samples
  apply Array.ext
  · simp [channelAt]
  · intro i _ hi
    have hbyte : ∀ k < 4, Bytes.byteAt (before ++ encodeChannel samples ++ behind)
        (before.size + 4 * i + k) = Bytes.byteAt (Bytes.ofWord32 samples[i]) (0 + k) := by
      intro k hk
      have hoffset : before.size + 4 * i + k - before.size = 4 * i + k := by omega
      rw [Bytes.byteAt_append, ByteArray.size_append, if_pos (by omega), Bytes.byteAt_append,
        if_neg (by omega), hoffset, byteAt_encodeChannel hi hk, Nat.zero_add]
    simp only [channelAt, Array.getElem_ofFn]
    rw [Bytes.word32_congr hbyte, Bytes.word32_ofWord32]

/-- Samples that have been found make the bytes that they were found in. -/
theorem encodeChannel_channelAt (h : start + 4 * frames ≤ bytes.size) :
    encodeChannel (channelAt bytes start frames) =
      bytes.extract start (start + 4 * frames) := by
  have hframes : (channelAt bytes start frames).size = frames := by simp [channelAt]
  have hsize : (encodeChannel (channelAt bytes start frames)).size = 4 * frames := by
    rw [size_encodeChannel, hframes]
  refine Bytes.ext_byteAt ?_ fun i => ?_
  · rw [hsize, ByteArray.size_extract]
    omega
  · rw [Bytes.byteAt_extract h]
    split
    · next hi =>
      have hlt : i / 4 < (channelAt bytes start frames).size := by omega
      have hsum : start + 4 * (i / 4) + i % 4 = start + i := by omega
      calc Bytes.byteAt (encodeChannel (channelAt bytes start frames)) i
          = Bytes.byteAt (encodeChannel (channelAt bytes start frames)) (4 * (i / 4) + i % 4) := by
            rw [Nat.div_add_mod]
        _ = Bytes.byteAt (Bytes.ofWord32 (channelAt bytes start frames)[i / 4]) (i % 4) :=
            byteAt_encodeChannel hlt (Nat.mod_lt _ (by omega))
        _ = Bytes.byteAt (Bytes.ofWord32 (Bytes.word32 bytes (start + 4 * (i / 4)))) (i % 4) := by
            simp only [channelAt, Array.getElem_ofFn]
        _ = Bytes.byteAt bytes (start + i) := by
            rw [Bytes.byteAt_ofWord32_word32 _ _ (Nat.mod_lt _ (by omega)), hsum]
    · exact Bytes.byteAt_of_le (by omega)

/-- How many samples of the right channel the bytes behind the left one suffice for. -/
def reach (c : Chunk) (bytes : ByteArray) : Nat :=
  min c.right.size ((bytes.size - 4 * c.left.size) / 4)

/-- What the bytes make of `c`. They fill the left channel, and the right one as far as they reach;
the samples behind that are the old ones. -/
structure Fills (c : Chunk) (bytes : ByteArray) (filled : Chunk) : Prop where
  sizes : filled.left.size = c.left.size ∧ filled.right.size = c.right.size
  left : encodeChannel filled.left = bytes.extract 0 (4 * c.left.size)
  right : encodeChannel (filled.right.take (c.reach bytes)) =
    bytes.extract (4 * c.left.size) (4 * c.left.size + 4 * c.reach bytes)
  rest : ∀ i, c.reach bytes ≤ i → filled.right[i]? = c.right[i]?

theorem fills_decodePlanar {c : Chunk} (h : 4 * c.left.size ≤ bytes.size) :
    Fills c bytes (c.decodePlanar bytes) := by
  have hreach : 4 * c.left.size + 4 * c.reach bytes ≤ bytes.size := by
    unfold reach
    omega
  have hleft : (c.decodePlanar bytes).left = channelAt bytes 0 c.left.size :=
    decodeChannel_eq rfl (by omega)
  constructor
  case sizes => exact ⟨size_decodeChannel _ _ _, size_decodeChannel _ _ _⟩
  case left => rw [hleft, encodeChannel_channelAt (by omega), Nat.zero_add]
  case right =>
    have hright : (c.decodePlanar bytes).right.take (c.reach bytes) = _ :=
      take_decodeChannel (Nat.min_le_left _ _) hreach
    rw [hright, encodeChannel_channelAt hreach]
  case rest =>
    intro i hi
    by_cases hout : c.right.size ≤ i
    · have hsize : (c.decodePlanar bytes).right.size = c.right.size := size_decodeChannel _ _ _
      rw [Array.getElem?_eq_none hout, Array.getElem?_eq_none (hsize ▸ hout)]
    · unfold reach at hi
      exact getElem?_decodeChannel (by omega)

theorem decodePlanar_encodePlanar_append {c old : Chunk} (hleft : old.left.size = c.left.size)
    (hright : old.right.size = c.right.size) (trailing : ByteArray) :
    old.decodePlanar (c.encodePlanar ++ trailing) = c := by
  have hl := size_encodeChannel c.left
  have hr := size_encodeChannel c.right
  have hsize : (c.encodePlanar ++ trailing).size =
      4 * c.left.size + 4 * c.right.size + trailing.size := by
    rw [encodePlanar, ByteArray.size_append, ByteArray.size_append, hl, hr]
  have hfirst : channelAt (c.encodePlanar ++ trailing) 0 c.left.size = c.left := by
    have hfound := channelAt_encodeChannel .empty (encodeChannel c.right ++ trailing) c.left
    rwa [ByteArray.empty_append, ← ByteArray.append_assoc] at hfound
  have hsecond : channelAt (c.encodePlanar ++ trailing) (4 * c.left.size) c.right.size = c.right := by
    have hfound := channelAt_encodeChannel (encodeChannel c.left) trailing c.right
    rwa [hl] at hfound
  rw [decodePlanar, hleft, decodeChannel_eq hleft (by omega), decodeChannel_eq hright (by omega),
    hfirst, hsecond]

/-- Splitting gives back two channels of any lengths, whatever the targets held and whatever stands
behind the channels; and where the bytes suffice for the left channel, they fill both as far as they
reach. -/
theorem decodePlanar_exact :
    (∀ (c old : Chunk) (trailing : ByteArray), old.left.size = c.left.size →
      old.right.size = c.right.size → old.decodePlanar (c.encodePlanar ++ trailing) = c) ∧
    ∀ (c : Chunk) (bytes : ByteArray), 4 * c.left.size ≤ bytes.size →
      Fills c bytes (c.decodePlanar bytes) ∧
        (bytes.size < Word.bound → Strict.decodePlanar c bytes = .ok (c.decodePlanar bytes)) := by
  constructor
  · exact fun c old trailing hleft hright => decodePlanar_encodePlanar_append hleft hright trailing
  · intro c bytes h
    exact ⟨fills_decodePlanar h, fun hb => Strict.decodePlanar_eq h (Nat.lt_of_le_of_lt h hb)⟩

/-- Channels of two samples and of one, a NaN and an infinity among them; and seven bytes for two
samples of a right channel, of which the second one stays. -/
theorem decodePlanar_exact_unequal :
    let c : Chunk := ⟨#[0x7fc00001, 0x3f800000], #[0xff800000]⟩
    let old : Chunk := ⟨#[1, 2], #[3]⟩
    let short : Chunk := ⟨#[1], #[2, 3]⟩
    let bytes : ByteArray := ⟨#[0, 0, 0x80, 0x3f, 0, 0, 0x80, 0xff, 7, 8, 9]⟩
    (old.left.size = c.left.size ∧ old.right.size = c.right.size ∧
      old.decodePlanar (c.encodePlanar ++ ⟨#[7, 8, 9]⟩) = c) ∧
    4 * short.left.size ≤ bytes.size ∧ bytes.size < Word.bound ∧
      Strict.decodePlanar short bytes = .ok (short.decodePlanar bytes) ∧
      (short.decodePlanar bytes).right.size = 2 ∧ (short.decodePlanar bytes).right[1]? = some 3 := by
  intro c old short bytes
  obtain ⟨hinverse, hfills⟩ := decodePlanar_exact
  have hle : 4 * short.left.size ≤ bytes.size := by decide
  have hbound : bytes.size < Word.bound := by decide
  obtain ⟨⟨⟨-, hsize⟩, -, -, hrest⟩, hstrict⟩ := hfills short bytes hle
  exact ⟨⟨rfl, rfl, hinverse c old ⟨#[7, 8, 9]⟩ rfl rfl⟩, hle, hbound, hstrict hbound, hsize,
    hrest 1 (by decide)⟩

end GuestHost.Chunk
