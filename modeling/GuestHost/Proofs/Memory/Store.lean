import GuestHost.Proofs.Memory
import GuestHost.Proofs.Session.Operation

/-! Guest memory as a store: which ranges there are, what reads find in them, and how writes get in
each other's way. -/
namespace GuestHost

namespace Bytes

theorem ext_byteAt {a b : ByteArray} (hsize : a.size = b.size)
    (h : ∀ i, byteAt a i = byteAt b i) : a = b := by
  refine ByteArray.ext_getElem hsize fun i ha hb => ?_
  rw [← byteAt_of_lt ha, h i, byteAt_of_lt hb]

theorem extract_append_of_le {b source : ByteArray} {start stop : Nat} (h : stop ≤ b.size) :
    (b ++ source).extract start stop = b.extract start stop := by
  have hle : stop ≤ (b ++ source).size := by
    rw [ByteArray.size_append]
    omega
  refine ext_byteAt ?_ fun i => ?_
  · rw [ByteArray.size_extract, ByteArray.size_extract, Nat.min_eq_left hle, Nat.min_eq_left h]
  · rw [byteAt_extract hle, byteAt_extract h, byteAt_append]
    split
    · rw [if_pos (by omega)]
    · rfl

end Bytes

namespace Span

variable {size size' len : Nat} {addr : UInt32} {span : Span}

/-- The end of a range is never lost: no size is too large to be counted. -/
theorem within_eq (h : size < Word.bound) (addr : UInt32) (len : Nat) :
    within size addr len = if addr.toNat + len ≤ size then .ok ⟨addr.toNat, addr.toNat + len⟩
      else .error (.outOfRange addr.toNat len size) := by
  split
  · next hfits => exact within_of_le hfits (by omega)
  · next hover => exact within_of_lt (by omega)

theorem within_mono (hle : size ≤ size') (h : within size addr len = .ok span) :
    within size' addr len = .ok span := by
  by_cases hm : Misses size addr len
  · rw [within_of_misses hm] at h
    cases h
  · have hm' : ¬Misses size' addr len := by
      unfold Misses at hm ⊢
      omega
    rw [← h, within_of_not_misses hm, within_of_not_misses hm']

end Span

/-- The ranges have no address in common. -/
def Span.Apart (addr len addr' len' : Nat) : Prop :=
  ∀ i, ¬((addr ≤ i ∧ i < addr + len) ∧ (addr' ≤ i ∧ i < addr' + len'))

namespace Memory

variable {m m' : Memory} {addr addr' : UInt32} {bytes bytes' : ByteArray}

theorem ext_byteAt (hpages : m.maxPages = m'.maxPages) (hsize : m.size = m'.size)
    (h : ∀ i, Bytes.byteAt m.bytes i = Bytes.byteAt m'.bytes i) : m = m' := by
  obtain ⟨b, pages⟩ := m
  obtain ⟨b', pages'⟩ := m'
  obtain rfl : b = b' := Bytes.ext_byteAt hsize h
  obtain rfl : pages = pages' := hpages
  rfl

/-- What has been put last is what is found. -/
theorem byteAt_put_put {a a' : Nat} (h : a + bytes.size ≤ m.size) (h' : a' + bytes'.size ≤ m.size)
    (i : Nat) : Bytes.byteAt ((m.put a bytes).put a' bytes').bytes i =
      if a' ≤ i ∧ i < a' + bytes'.size then Bytes.byteAt bytes' (i - a')
      else if a ≤ i ∧ i < a + bytes.size then Bytes.byteAt bytes (i - a)
      else Bytes.byteAt m.bytes i := by
  have hsize := size_put h
  rw [byteAt_put (by omega), byteAt_put h]

theorem size_put_put {a a' : Nat} (h : a + bytes.size ≤ m.size) (h' : a' + bytes'.size ≤ m.size) :
    ((m.put a bytes).put a' bytes').size = m.size := by
  have hsize := size_put h
  rw [size_put (by omega), hsize]

theorem put_put_of_apart {a a' : Nat} (h : a + bytes.size ≤ m.size)
    (h' : a' + bytes'.size ≤ m.size) (hapart : Span.Apart a bytes.size a' bytes'.size) :
    (m.put a bytes).put a' bytes' = (m.put a' bytes').put a bytes := by
  refine ext_byteAt rfl ((size_put_put h h').trans (size_put_put h' h).symm) fun i => ?_
  rw [byteAt_put_put h h', byteAt_put_put h' h]
  by_cases hin : a ≤ i ∧ i < a + bytes.size
  · have hout : ¬(a' ≤ i ∧ i < a' + bytes'.size) := fun hin' => hapart i ⟨hin, hin'⟩
    rw [if_neg hout, if_pos hin, if_pos hin]
  · rw [if_neg hin, if_neg hin]

theorem put_put_of_size_eq {a : Nat} (h : a + bytes.size ≤ m.size)
    (hlen : bytes'.size = bytes.size) : (m.put a bytes).put a bytes' = m.put a bytes' := by
  have h' : a + bytes'.size ≤ m.size := by omega
  refine ext_byteAt rfl ((size_put_put h h').trans (size_put h').symm) fun i => ?_
  rw [byteAt_put_put h h', byteAt_put h', hlen]
  split_ifs <;> rfl

/-- The memory after a write, which may have been refused. -/
def written (m : Memory) (addr : UInt32) (bytes : ByteArray) : Memory :=
  (m.write addr bytes).toOption.getD m

theorem written_of_misses (h : Span.Misses m.size addr bytes.size) :
    m.written addr bytes = m := by
  rw [written, write_of_misses h]
  rfl

theorem written_of_not_misses (h : ¬Span.Misses m.size addr bytes.size) :
    m.written addr bytes = m.put addr.toNat bytes := by
  rw [written, write_of_not_misses h]
  rfl

theorem size_written (m : Memory) (addr : UInt32) (bytes : ByteArray) :
    (m.written addr bytes).size = m.size := by
  by_cases h : Span.Misses m.size addr bytes.size
  · rw [written_of_misses h]
  · rw [written_of_not_misses h]
    unfold Span.Misses at h
    exact size_put (by omega)

/-- Whether a write is refused hangs on the size alone, which no write changes. -/
theorem written_written_of_apart
    (h : Span.Apart addr.toNat bytes.size addr'.toNat bytes'.size) :
    (m.written addr bytes).written addr' bytes' = (m.written addr' bytes').written addr bytes := by
  have hsize := m.size_written addr bytes
  have hsize' := m.size_written addr' bytes'
  by_cases hm : Span.Misses m.size addr bytes.size
  · have hm₁ : Span.Misses (m.written addr' bytes').size addr bytes.size := hsize' ▸ hm
    rw [written_of_misses hm, written_of_misses hm₁]
  · by_cases hm' : Span.Misses m.size addr' bytes'.size
    · have hm₁ : Span.Misses (m.written addr bytes).size addr' bytes'.size := hsize ▸ hm'
      rw [written_of_misses hm₁, written_of_misses hm']
    · rw [written_of_not_misses (hsize ▸ hm'), written_of_not_misses hm,
        written_of_not_misses (hsize' ▸ hm), written_of_not_misses hm']
      unfold Span.Misses at hm hm'
      exact put_put_of_apart (by omega) (by omega) h

theorem written_written_of_size_eq (h : bytes'.size = bytes.size) :
    (m.written addr bytes).written addr bytes' = m.written addr bytes' := by
  have hsize := m.size_written addr bytes
  by_cases hm : Span.Misses m.size addr bytes.size
  · rw [written_of_misses hm]
  · have hm' : ¬Span.Misses m.size addr bytes'.size := h ▸ hm
    rw [written_of_not_misses (hsize ▸ hm'), written_of_not_misses hm, written_of_not_misses hm']
    unfold Span.Misses at hm
    exact put_put_of_size_eq (by omega) h

theorem bytes_of_grow? {delta : Nat} {grown : Memory} (h : m.grow? delta = some grown) :
    grown.bytes = m.bytes ++ Bytes.zeros (delta * pageSize) := by
  unfold grow? at h
  split at h <;> cases h
  rfl

/-- A memory that has grown has all its bytes where they were. -/
theorem read_of_grow? {delta len : Nat} {grown : Memory} (hg : m.grow? delta = some grown)
    (h : m.read addr len = .ok bytes) : grown.read addr len = .ok bytes := by
  have hbytes := bytes_of_grow? hg
  have hsize : m.size ≤ grown.size := by
    rw [size, size, hbytes, ByteArray.size_append]
    omega
  by_cases hm : Span.Misses m.size addr len
  · rw [read_of_misses hm] at h
    cases h
  · have hm' : ¬Span.Misses grown.size addr len := by
      unfold Span.Misses at hm ⊢
      omega
    rw [read_of_not_misses hm] at h
    rw [← h, read_of_not_misses hm', hbytes]
    unfold Span.Misses at hm
    rw [Bytes.extract_append_of_le (Nat.not_lt.mp fun hover => hm (.inl hover))]

end Memory

namespace Vm

variable {vm : Vm}

theorem write_eq (addr : UInt32) (bytes : ByteArray) (vm : Vm) :
    write addr bytes vm = ⟨(Span.within vm.memory.size addr bytes.size).map fun _ => (),
      vm.withMemory (vm.memory.written addr bytes), []⟩ := by
  by_cases hm : Span.Misses vm.memory.size addr bytes.size
  · rw [write_of_error (Memory.write_of_misses hm), Memory.written_of_misses hm,
      Span.within_of_misses hm]
    rfl
  · rw [write_of_ok (Memory.write_of_not_misses hm), Memory.written_of_not_misses hm,
      Span.within_of_not_misses hm]
    rfl

/-- Two writes, the second one whatever comes of the first. -/
def writeBoth (addr : UInt32) (bytes : ByteArray) (addr' : UInt32) (bytes' : ByteArray) :
    Act Error Vm (Except Error Unit × Except Error Unit) := do
  let first ← Act.attempt (write addr bytes)
  let second ← Act.attempt (write addr' bytes')
  return (first, second)

/-- At each address of the range the host reads the byte that belongs there. -/
def Reads (vm : Vm) (addr : UInt32) (len : Nat) (content : Nat → UInt8) : Prop :=
  ∃ bytes, read addr len vm = ⟨.ok bytes, vm, []⟩ ∧ bytes.size = len ∧
    ∀ i < len, Bytes.byteAt bytes i = content (addr.toNat + i)

/-- What the host can read and write, what it reads after it has written, and which of its writes
can change places. A second write to the same range makes the first one undone. -/
structure StoreLaws (vm : Vm) : Prop where
  reads : ∀ (addr : UInt32) len, addr.toNat + len ≤ vm.memory.size →
    vm.Reads addr len (Bytes.byteAt vm.memory.bytes)
  refusesRead : ∀ (addr : UInt32) len, vm.memory.size < addr.toNat + len →
    read addr len vm = ⟨.error (.outOfRange addr.toNat len vm.memory.size), vm, []⟩
  writes : ∀ (addr : UInt32) (bytes : ByteArray), addr.toNat + bytes.size ≤ vm.memory.size →
    ∃ memory : Memory, write addr bytes vm = ⟨.ok (), vm.withMemory memory, []⟩ ∧
      memory.size = vm.memory.size ∧
      ∀ (addr' : UInt32) len, addr'.toNat + len ≤ vm.memory.size →
        (vm.withMemory memory).Reads addr' len fun i =>
          if addr.toNat ≤ i ∧ i < addr.toNat + bytes.size then Bytes.byteAt bytes (i - addr.toNat)
          else Bytes.byteAt vm.memory.bytes i
  refusesWrite : ∀ (addr : UInt32) (bytes : ByteArray),
    vm.memory.size < addr.toNat + bytes.size →
      write addr bytes vm =
        ⟨.error (.outOfRange addr.toNat bytes.size vm.memory.size), vm, []⟩
  commutes : ∀ (addr : UInt32) (bytes : ByteArray) (addr' : UInt32) (bytes' : ByteArray),
    Span.Apart addr.toNat bytes.size addr'.toNat bytes'.size →
      writeBoth addr bytes addr' bytes' vm =
        (Prod.swap <$> writeBoth addr' bytes' addr bytes) vm
  lastWins : ∀ (addr : UInt32) (bytes bytes' : ByteArray), bytes'.size = bytes.size →
    (writeBoth addr bytes addr bytes' vm).state = (write addr bytes' vm).state
  grows : ∀ delta memory, vm.memory.grow? delta = some memory →
    ∀ addr len bytes, read addr len vm = ⟨.ok bytes, vm, []⟩ →
      read addr len (vm.withMemory memory) = ⟨.ok bytes, vm.withMemory memory, []⟩

theorem writeBoth_eq (addr : UInt32) (bytes : ByteArray) (addr' : UInt32) (bytes' : ByteArray)
    (vm : Vm) : writeBoth addr bytes addr' bytes' vm =
      ⟨.ok ((Span.within vm.memory.size addr bytes.size).map fun _ => (),
          (Span.within vm.memory.size addr' bytes'.size).map fun _ => ()),
        vm.withMemory ((vm.memory.written addr bytes).written addr' bytes'), []⟩ := by
  let vm₁ := vm.withMemory (vm.memory.written addr bytes)
  have hfirst : Act.attempt (write addr bytes) vm = (⟨.ok _, vm₁, []⟩ : Outcome Error _ _) :=
    congrArg (fun o => Outcome.mk (Except.ok o.result) o.state o.trace) (write_eq addr bytes vm)
  have hsecond : Act.attempt (write addr' bytes') vm₁ = (⟨.ok _, _, []⟩ : Outcome Error _ _) :=
    congrArg (fun o => Outcome.mk (Except.ok o.result) o.state o.trace) (write_eq addr' bytes' vm₁)
  rw [writeBoth, Act.bind_of_silent hfirst, Act.bind_of_silent hsecond]
  have hsize : vm₁.memory.size = vm.memory.size := vm.memory.size_written addr bytes
  rw [hsize]
  rfl

theorem reads_of_le {addr : UInt32} {len : Nat} (h : addr.toNat + len ≤ vm.memory.size)
    (hb : vm.memory.size < Word.bound) : vm.Reads addr len (Bytes.byteAt vm.memory.bytes) := by
  have hread := Memory.read_of_le h (by omega)
  refine ⟨_, congrArg (Outcome.mk · vm []) hread, Memory.size_of_read hread, fun i hi => ?_⟩
  rw [Bytes.byteAt_extract h, if_pos (by omega)]

/-- Reads and writes of a memory obey the laws of a store: a range is served if it ends within the
memory, and a range that is served by a memory is served by every larger one. -/
theorem storeLaws (h : vm.memory.size < Word.bound) :
    (∀ size addr len, size < Word.bound →
      Span.within size addr len =
        if addr.toNat + len ≤ size then .ok ⟨addr.toNat, addr.toNat + len⟩
        else .error (.outOfRange addr.toNat len size)) ∧
    (∀ size size' addr len span, size ≤ size' → Span.within size addr len = .ok span →
      Span.within size' addr len = .ok span) ∧
    vm.StoreLaws := by
  refine ⟨fun _ addr len hsize => Span.within_eq hsize addr len,
    fun _ _ _ _ _ => Span.within_mono, ?_⟩
  constructor
  case reads => exact fun addr len hfits => reads_of_le hfits h
  case refusesRead =>
    exact fun addr len hover => congrArg (Outcome.mk · vm []) (Memory.read_of_lt hover)
  case writes =>
    intro addr bytes hfits
    have hsize := Memory.size_put hfits
    refine ⟨vm.memory.put addr.toNat bytes, write_of_ok (Memory.write_of_le hfits (by omega)),
      hsize, fun addr' len hfits' => ?_⟩
    have hcontent : Bytes.byteAt (vm.memory.put addr.toNat bytes).bytes = _ :=
      funext fun i => Memory.byteAt_put hfits i
    rw [← hcontent]
    have hreads : (vm.withMemory (vm.memory.put addr.toNat bytes)).Reads addr' len _ :=
      reads_of_le (hsize ▸ hfits') (hsize ▸ h)
    exact hreads
  case refusesWrite => exact fun addr bytes hover => write_of_error (Memory.write_of_lt hover)
  case commutes =>
    intro addr bytes addr' bytes' hapart
    rw [Act.map_apply, writeBoth_eq, writeBoth_eq, Memory.written_written_of_apart hapart]
    rfl
  case lastWins =>
    intro addr bytes bytes' hlen
    rw [writeBoth_eq, write_eq, Memory.written_written_of_size_eq hlen]
  case grows =>
    intro delta memory hg addr len bytes hread
    have hserved : vm.memory.read addr len = .ok bytes := congrArg Outcome.result hread
    exact congrArg (Outcome.mk · (vm.withMemory memory) []) (Memory.read_of_grow? hg hserved)

/-- In a memory of one page two bytes can be stored up to its very end, and not across it. -/
theorem storeLaws_quiet : Session.quiet.vm.memory.size < Word.bound ∧
    (∃ memory, write 0xfffe ⟨#[7, 8]⟩ Session.quiet.vm =
      ⟨.ok (), Session.quiet.vm.withMemory memory, []⟩ ∧ memory.size = 0x10000) ∧
    write 0xffff ⟨#[7, 8]⟩ Session.quiet.vm =
      ⟨.error (.outOfRange 0xffff 2 0x10000), Session.quiet.vm, []⟩ := by
  have hsize : Session.quiet.vm.memory.size = 0x10000 := Memory.size_blank 1 none
  have hbound : Session.quiet.vm.memory.size < Word.bound := by
    rw [hsize]
    decide
  obtain ⟨-, -, hlaws⟩ := storeLaws hbound
  refine ⟨hbound, ?_, ?_⟩
  · obtain ⟨memory, hwrite, hmemory, -⟩ := hlaws.writes 0xfffe ⟨#[7, 8]⟩ (by rw [hsize]; decide)
    exact ⟨memory, hwrite, hmemory.trans hsize⟩
  · rw [hlaws.refusesWrite 0xffff ⟨#[7, 8]⟩ (by rw [hsize]; decide), hsize]
    rfl

end Vm

end GuestHost
