import GuestHost.Proofs.Guest.Run
import GuestHost.Proofs.Memory.Word

/-! Chunks on their way: the length that they get, the samples that they take from a stretch of
memory, and those among them that are sent back. -/
namespace GuestHost

namespace Chunk

theorem size_resizeChannel (samples : Array UInt32) (n : Nat) :
    (resizeChannel samples n).size = n := by
  simp only [resizeChannel, Array.size_append, Array.size_replicate, Array.take_eq_extract,
    Array.size_extract]
  omega

/-- Of a silenced chunk nothing is left but its new length. -/
theorem silence_resize (c : Chunk) (frames : Nat) : (c.resize frames).silence = silent frames := by
  have hmap : ∀ samples : Array UInt32,
      (resizeChannel samples frames).map (fun _ => 0) = .replicate frames (0 : UInt32) := by
    intro samples
    rw [Array.map_const', size_resizeChannel]
  rw [resize, silence, hmap, hmap]
  rfl

section Extract

variable {bytes : ByteArray} {start stop : Nat}

theorem word32_extract (h : stop ≤ bytes.size) {i : Nat} (hi : start + i + 4 ≤ stop) :
    Bytes.word32 (bytes.extract start stop) i = Bytes.word32 bytes (start + i) := by
  refine Bytes.word32_congr fun k hk => ?_
  rw [Bytes.byteAt_extract h, if_pos (by omega), Nat.add_assoc]

/-- A channel finds its samples in a part of the bytes as it does in all of them, if the part holds
them all or reaches to the end. -/
theorem decodeChannel_extract (h : stop ≤ bytes.size) {samples : Array UInt32}
    (hs : start + 4 * samples.size ≤ stop ∨ stop = bytes.size) (hle : start ≤ stop) :
    decodeChannel (bytes.extract start stop) 0 samples = decodeChannel bytes start samples := by
  have hsize : (bytes.extract start stop).size = stop - start := by
    rw [ByteArray.size_extract, Nat.min_eq_left h]
  apply Array.ext
  · simp [decodeChannel]
  · intro i hi _
    have hlt : i < samples.size := by simpa [decodeChannel] using hi
    simp only [decodeChannel, Array.getElem_mapIdx, hsize, Nat.zero_add]
    by_cases hin : start + 4 * i + 4 ≤ bytes.size
    · have hpart : 4 * i + 4 ≤ stop - start := by omega
      rw [if_pos hin, if_pos hpart, word32_extract h (by omega)]
    · have hpart : ¬4 * i + 4 ≤ stop - start := by omega
      rw [if_neg hin, if_neg hpart]

end Extract

/-- The words that start at `start`, one sample after the other. -/
def channelAt (bytes : ByteArray) (start frames : Nat) : Array UInt32 :=
  .ofFn fun i : Fin frames => Bytes.word32 bytes (start + 4 * i)

/-- The right channel lies behind the left one. -/
def planarAt (bytes : ByteArray) (start frames : Nat) : Chunk :=
  ⟨channelAt bytes start frames, channelAt bytes (start + 4 * frames) frames⟩

theorem size_planarAt (bytes : ByteArray) (start frames : Nat) :
    (planarAt bytes start frames).left.size = frames ∧
      (planarAt bytes start frames).right.size = frames := by
  constructor <;> simp [planarAt, channelAt]

theorem size_silent (frames : Nat) :
    (silent frames).left.size = frames ∧ (silent frames).right.size = frames := by
  constructor <;> simp [silent]

section Decode

variable {bytes : ByteArray} {start frames : Nat} {samples : Array UInt32}

theorem size_decodeChannel (bytes : ByteArray) (start : Nat) (samples : Array UInt32) :
    (decodeChannel bytes start samples).size = samples.size :=
  Array.size_mapIdx

/-- The samples whose bytes are all there. -/
theorem take_decodeChannel (hs : frames ≤ samples.size) (h : start + 4 * frames ≤ bytes.size) :
    (decodeChannel bytes start samples).take frames = channelAt bytes start frames := by
  apply Array.ext
  · simp [decodeChannel, channelAt, hs]
  · intro i _ hi
    have hlt : i < frames := by simpa [channelAt] using hi
    have hword : start + 4 * i + 4 ≤ bytes.size := by omega
    simp [decodeChannel, channelAt, hword]

/-- The samples of which some bytes are missing. -/
theorem getElem?_decodeChannel {i : Nat} (h : bytes.size < start + 4 * i + 4) :
    (decodeChannel bytes start samples)[i]? = samples[i]? := by
  simp [decodeChannel, Nat.not_le.mpr h]

/-- Where all the bytes are there, nothing of the old samples is left. -/
theorem decodeChannel_eq (hs : samples.size = frames) (h : start + 4 * frames ≤ bytes.size) :
    decodeChannel bytes start samples = channelAt bytes start frames := by
  have hall : (decodeChannel bytes start samples).size = frames :=
    (size_decodeChannel bytes start samples).trans hs
  rw [← take_decodeChannel (Nat.le_of_eq hs.symm) h, ← hall, Array.take_eq_extract,
    Array.extract_size]

end Decode

theorem channelAt_extract {bytes : ByteArray} {start stop first frames : Nat}
    (h : stop ≤ bytes.size) (hin : start + first + 4 * frames ≤ stop) :
    channelAt (bytes.extract start stop) first frames = channelAt bytes (start + first) frames := by
  apply Array.ext
  · simp [channelAt]
  · intro i hi _
    have hlt : i < frames := by simpa [channelAt] using hi
    have hword : start + (first + 4 * i) + 4 ≤ stop := by omega
    simp only [channelAt, Array.getElem_ofFn, word32_extract h hword, Nat.add_assoc]

/-- What a lent chunk holds after it has been filled does not depend on what it was. -/
theorem decodePlanar_resize (c : Chunk) {bytes : ByteArray} {start frames : Nat}
    (h : start + frames * 2 * 4 ≤ bytes.size) :
    (c.resize frames).decodePlanar (bytes.extract start (start + frames * 2 * 4)) =
      planarAt bytes start frames := by
  have hsize : (bytes.extract start (start + frames * 2 * 4)).size = frames * 2 * 4 := by
    rw [ByteArray.size_extract]
    omega
  have hleft := size_resizeChannel c.left frames
  have hright := size_resizeChannel c.right frames
  rw [decodePlanar, resize]
  dsimp only
  rw [hleft, decodeChannel_eq hleft (by omega), decodeChannel_eq hright (by omega),
    channelAt_extract h (by omega), channelAt_extract h (by omega), planarAt, Nat.add_zero]

end Chunk

def Output.reply? : Output → Option Chunk
  | .reply c => some c
  | _ => none

/-- The chunks that are sent back, in their order. -/
def replies (t : List Output) : List Chunk :=
  t.filterMap Output.reply?

variable {t t' : List Output}

@[simp] theorem replies_append (t t' : List Output) : replies (t ++ t') = replies t ++ replies t' :=
  List.filterMap_append

@[simp] theorem replies_call (c : Call) (t : List Output) : replies (.call c :: t) = replies t :=
  rfl

theorem replies_of_notes (h : ∀ o ∈ t, ∃ n, o = .note n) : replies t = [] := by
  refine List.filterMap_eq_nil_iff.mpr fun o ho => ?_
  obtain ⟨n, rfl⟩ := h o ho
  rfl

/-- What the guest runs sends nothing back. -/
theorem replies_run {α : Type} (r : Routine α) (m : Machine) : replies (r.run m).trace = [] := by
  refine List.filterMap_eq_nil_iff.mpr fun o ho => ?_
  have hguest := (r.keeps_run Machine.held_kept m).shown o ho
  cases o with
  | reply c => cases hguest
  | _ => rfl

end GuestHost
