import GuestHost.Proofs.Course

/-! The same host with partial operations: slices, copies between buffers of one length, splits and
products panic where they are not defined. None of them ever does. -/
namespace GuestHost

/-- How a partial operation can end other than well. -/
inductive Alarm where
  | panic
  | error (e : Error)
  deriving DecidableEq

variable {σ τ α β : Type}

/-- Errors that are reported are no panics. -/
def reported : Except Error α → Except Alarm α
  | .ok a => .ok a
  | .error e => .error (.error e)

theorem ok_of_reported {r : Except Error α} {a : α} (h : reported r = .ok a) : r = .ok a := by
  cases r with
  | error e => cases h
  | ok b =>
    cases h
    rfl

/-- The action on a host that could panic but does not. -/
def Act.alarmed (x : Act Error σ α) : Act Alarm σ α :=
  fun s => let o := x s
    ⟨reported o.result, o.state, o.trace⟩

namespace Strict

/-- `b[start..stop]` -/
def slice (b : ByteArray) (start stop : Nat) : Except Alarm ByteArray :=
  if start ≤ stop ∧ stop ≤ b.size then .ok (b.extract start stop) else .error .panic

/-- Overwrites a buffer by one of the same length. -/
def copy (target source : ByteArray) : Except Alarm ByteArray :=
  if target.size = source.size then .ok source else .error .panic

def splitAt (b : ByteArray) (i : Nat) : Except Alarm (ByteArray × ByteArray) := do
  let left ← slice b 0 i
  let right ← slice b i b.size
  return (left, right)

def product (a b : Nat) : Except Alarm Nat :=
  (Word.mul? a b).elim (.error .panic) .ok

def layerLength (d : Config.Display) : Except Alarm Nat := do
  let pixels ← product d.width.toNat d.height.toNat
  product pixels 4

def read (m : Memory) (addr : UInt32) (len : Nat) : Except Alarm ByteArray := do
  let span ← reported (Span.within m.size addr len)
  slice m.bytes span.start span.stop

def write (m : Memory) (addr : UInt32) (bytes : ByteArray) : Except Alarm Memory := do
  let span ← reported (Span.within m.size addr bytes.size)
  let target ← slice m.bytes span.start span.stop
  let source ← copy target bytes
  return { m with bytes := Bytes.overwrite m.bytes span.start source }

def terminatedText (data : ByteArray) (addr : UInt32) : Except Alarm ByteArray :=
  if data.size < addr.toNat then .error (.error (.outOfRange addr.toNat 1 data.size))
  else match Bytes.zeroFrom? data (data.size - addr.toNat) addr.toNat with
    | some stop => do
      let tail ← slice data addr.toNat data.size
      slice tail 0 (stop - addr.toNat)
    | none => .error (.error (.unterminated addr.toNat))

/-- The length of a layer is that of the buffer that holds the frame. -/
def render (c : Compositor) (memory : ByteArray) (bg fg : UInt32) : Except Alarm Compositor := do
  let length := c.current.output.size
  let back ← reported (Span.within memory.size bg length)
  let front ← reported (Span.within memory.size fg length)
  let below ← slice memory back.start back.stop
  let background ← copy c.current.background below
  let above ← slice memory front.start front.stop
  let foreground ← copy c.current.foreground above
  return c.draw background foreground

def answer (caller : Caller) : HostCall → Act Alarm Machine Unit
  | .printChar code => Machine.printChar code
  | .printStr ptr => do
    let memory ← (Machine.exportedMemory caller).alarmed
    let text ← Act.ofExcept (terminatedText memory.bytes ptr)
    Machine.printBytes text.data.toList
  | .render bg fg => do
    let memory ← (Machine.exportedMemory caller).alarmed
    let m ← Act.get
    let c ← Act.ofExcept (render m.compositor memory.bytes bg fg)
    Act.modify fun m => { m with compositor := c }
    Act.emit (.frame c.frame)
  | .getDateTime out => do
    let t ← Machine.now
    let memory ← (Machine.exportedMemory caller).alarmed
    let memory ← Act.ofExcept (write memory out t.record)
    Act.modify fun m => { m with memory }

@[simp] theorem ok_bind {ε : Type} (a : α) (f : α → Except ε β) : (.ok a >>= f) = f a := rfl

@[simp] theorem error_bind {ε : Type} (e : ε) (f : α → Except ε β) :
    (.error e >>= f) = .error e := rfl

@[simp] theorem reported_ok (a : α) : reported (.ok a) = .ok a := rfl

@[simp] theorem reported_error (e : Error) :
    reported (.error e : Except Error α) = .error (.error e) := rfl

theorem slice_of_le {b : ByteArray} {start stop : Nat} (h : start ≤ stop) (hb : stop ≤ b.size) :
    slice b start stop = .ok (b.extract start stop) :=
  if_pos ⟨h, hb⟩

theorem copy_of_eq {target source : ByteArray} (h : target.size = source.size) :
    copy target source = .ok source :=
  if_pos h

theorem splitAt_of_le {b : ByteArray} {i : Nat} (h : i ≤ b.size) :
    splitAt b i = .ok (b.extract 0 i, b.extract i b.size) := by
  rw [splitAt, slice_of_le (Nat.zero_le i) h, slice_of_le h (Nat.le_refl _)]
  rfl

theorem product_of_lt {a b : Nat} (h : a * b < Word.bound) : product a b = .ok (a * b) := by
  rw [product, Word.mul?, if_pos h, Option.elim_some]

/-- A span that was found within a memory can be cut out of it. -/
theorem slice_of_not_misses {b : ByteArray} {addr : UInt32} {len : Nat}
    (h : ¬Span.Misses b.size addr len) : slice b addr.toNat (addr.toNat + len) =
      .ok (b.extract addr.toNat (addr.toNat + len)) := by
  unfold Span.Misses at h
  exact slice_of_le (Nat.le_add_right _ _) (by omega)

theorem read_eq (m : Memory) (addr : UInt32) (len : Nat) :
    read m addr len = reported (m.read addr len) := by
  by_cases hm : Span.Misses m.size addr len
  · rw [read, Span.within_of_misses hm, Memory.read_of_misses hm]
    rfl
  · rw [read, Span.within_of_not_misses hm, Memory.read_of_not_misses hm]
    exact slice_of_not_misses hm

theorem write_eq (m : Memory) (addr : UInt32) (bytes : ByteArray) :
    write m addr bytes = reported (m.write addr bytes) := by
  by_cases hm : Span.Misses m.size addr bytes.size
  · rw [write, Span.within_of_misses hm, Memory.write_of_misses hm]
    rfl
  · have hslice := slice_of_not_misses hm
    have hcopy := copy_of_eq (Span.size_extract_of_not_misses hm)
    rw [write, Span.within_of_not_misses hm, Memory.write_of_not_misses hm]
    simp only [reported_ok, ok_bind, hslice, hcopy]
    rfl

theorem terminatedText_eq (data : ByteArray) (addr : UInt32) :
    terminatedText data addr = reported (GuestHost.terminatedText data addr) := by
  unfold terminatedText GuestHost.terminatedText
  by_cases hs : data.size < addr.toNat
  · rw [if_pos hs, if_pos hs]
    rfl
  · rw [if_neg hs, if_neg hs]
    cases hz : Bytes.zeroFrom? data (data.size - addr.toNat) addr.toNat with
    | none => rfl
    | some stop =>
      obtain ⟨⟨hlow, hhigh⟩, -⟩ := Bytes.zeroFrom?_eq_some_iff.mp hz
      have htail : (data.extract addr.toNat data.size).size = data.size - addr.toNat := by
        rw [ByteArray.size_extract, Nat.min_self]
      have hall := slice_of_le (Nat.le_of_not_lt hs) (Nat.le_refl data.size)
      have hcut : slice (data.extract addr.toNat data.size) 0 (stop - addr.toNat) = _ :=
        slice_of_le (Nat.zero_le _) (by omega)
      have hsum : addr.toNat + (stop - addr.toNat) = stop := by omega
      simp only [reported_ok, hall, ok_bind, hcut]
      rw [ByteArray.extract_extract, Nat.add_zero, hsum, Nat.min_eq_left (by omega)]

end Strict

theorem Strict.render_eq {c : Compositor} (h : c.Whole) (memory : ByteArray) (bg fg : UInt32) :
    render c memory bg fg = reported (c.render memory bg fg) := by
  unfold render
  rw [h.output]
  dsimp only
  by_cases hb : Span.Misses memory.size bg c.layerLength
  · rw [Compositor.render_of_background hb, Span.within_of_misses hb]
    rfl
  · by_cases hf : Span.Misses memory.size fg c.layerLength
    · rw [Compositor.render_of_foreground hb hf, Span.within_of_not_misses hb,
        Span.within_of_misses hf]
      rfl
    · have hunder := slice_of_not_misses hb
      have hover := slice_of_not_misses hf
      have hback := copy_of_eq (h.background.trans (Span.size_extract_of_not_misses hb).symm)
      have hfront := copy_of_eq (h.foreground.trans (Span.size_extract_of_not_misses hf).symm)
      rw [Compositor.render_of_not_misses hb hf, Span.within_of_not_misses hb,
        Span.within_of_not_misses hf]
      simp only [reported_ok, ok_bind, hunder, hback, hover, hfront]
      rfl

namespace Act

variable {x : Act Error σ α} {f : α → Act Error σ β}

theorem alarmed_bind : (x >>= f).alarmed = x.alarmed >>= fun a => (f a).alarmed := by
  funext s
  rcases hx : x s with ⟨e | a, s', t⟩
  · have hax : x.alarmed s = ⟨.error (.error e), s', t⟩ := by simp only [alarmed, hx, reported]
    rw [bind_of_error hax, alarmed, bind_of_error hx]
    rfl
  · have hax : x.alarmed s = ⟨.ok a, s', t⟩ := by simp only [alarmed, hx, reported]
    rw [bind_of_ok hax, alarmed, bind_of_ok hx]
    rfl

theorem result_alarmed_ne_panic (x : Act Error σ α) (s : σ) :
    (x.alarmed s).result ≠ .error .panic := by
  change reported (x s).result ≠ .error .panic
  cases (x s).result with
  | ok a => exact nofun
  | error e => exact nofun

theorem alarmed_get : (get : Act Error σ σ).alarmed = get := rfl

theorem alarmed_note (n : Notice) : (note n : Act Error σ Unit).alarmed = note n := rfl

theorem alarmed_on (part : τ → σ) (put : σ → τ → τ) (x : Act Error σ α) :
    (on part put x).alarmed = on part put x.alarmed := rfl

theorem alarmed_ite {c : Prop} [Decidable c] {y : Act Error σ α} :
    (if c then x else y).alarmed = if c then x.alarmed else y.alarmed := by
  split <;> rfl

theorem alarmed_ofExcept (r : Except Error α) :
    (ofExcept r : Act Error σ α).alarmed = ofExcept (reported r) := by
  cases r <;> rfl

end Act

namespace Strict

variable {m : Machine}

/-- A call that finds the buffers whole is answered as if nothing could panic. -/
theorem answer_eq (hw : m.compositor.Whole) (caller : Caller) (c : HostCall) :
    answer caller c m = (Machine.answer caller c).alarmed m := by
  cases c with
  | printChar code => rfl
  | printStr ptr =>
    simp only [answer, Machine.answer, Machine.printStr, Act.alarmed_bind, Act.alarmed_ofExcept,
      terminatedText_eq]
    rfl
  | render bg fg =>
    simp only [answer, Machine.answer, Machine.render, Act.alarmed_bind, Act.alarmed_ofExcept]
    cases hm : m.finds caller with
    | false =>
      have hmem : (Machine.exportedMemory caller).alarmed m =
          ⟨.error (.error .missingMemory), m, []⟩ := by
        simp [Act.alarmed, Machine.exportedMemory, hm, reported]
      rw [Act.bind_of_error hmem, Act.bind_of_error hmem]
    | true =>
      have hmem : (Machine.exportedMemory caller).alarmed m = ⟨.ok m.memory, m, []⟩ := by
        simp [Act.alarmed, Machine.exportedMemory, hm, reported]
      rw [Act.bind_of_silent hmem, Act.bind_of_silent hmem, Act.get_bind, render_eq hw]
      rfl
  | getDateTime out =>
    simp only [answer, Machine.answer, Machine.getDateTime, Act.alarmed_bind, Act.alarmed_ofExcept,
      write_eq]
    rfl

end Strict

namespace Machine

def Whole (m : Machine) : Prop :=
  m.compositor.Whole

theorem whole_law : Act.Law fun m (_ : List Output) m' => Whole m → Whole m' where
  refl _ := id
  trans h h' := h' ∘ h

/-- Frames replace the buffers as a whole; nothing else touches them. -/
theorem whole_kept : Kept fun m _ m' => Whole m → Whole m' where
  toLaw := whole_law
  grow _ := id
  store _ := id
  fill _ := id
  setGlobal _ _ := id
  answer caller c := by
    have hmem : Act.Keeps (fun m (_ : List Output) m' => Whole m → Whole m')
        (exportedMemory caller) := whole_law.refl
    cases c with
    | printChar code => exact fun m => id
    | printStr ptr =>
      exact .bind whole_law hmem fun memory =>
        .bind whole_law (.ofExcept whole_law _) fun text m => id
    | render bg fg =>
      refine .bind whole_law hmem fun memory m => ?_
      rw [Act.get_bind]
      cases hc : m.compositor.render memory.bytes bg fg with
      | error e => exact id
      | ok c => exact fun hm => Compositor.Whole.render hm hc
    | getDateTime out =>
      refine .bind whole_law (fun m => id) fun t => .bind whole_law hmem fun memory => ?_
      exact .bind whole_law (.ofExcept whole_law _) fun memory m => id

theorem stable_whole : Stable Whole :=
  .of_kept whole_kept (fun _ => id) fun _ => id

end Machine

/-- Wherever the code turns to its host, no partial operation fails there; and a host that finds
the memory reports exactly what the memory does not hold. Without one all but a character is turned
down. -/
structure Code.Safe (code : Code α) (caller : Caller) (m : Machine) : Prop where
  strict : ∀ {t c next m'}, code.Reaches caller m t (.host c next) m' →
    Strict.answer caller c m' = (Machine.answer caller c).alarmed m'
  surfaces : m.finds caller = true → ∀ {t c next m'}, code.Reaches caller m t (.host c next) m' →
    ∀ e, (Machine.answer caller c m').result = .error e ↔ m'.Refuses c e
  homeless : m.finds caller = false →
    ∀ {t c next m'}, code.Reaches caller m t (.host c next) m' →
      ∀ e, (Machine.answer caller c m').result = .error e ↔
        c.usesMemory = true ∧ e = .missingMemory

theorem Machine.Held.finds_eq {m m' : Machine} {t : List Output} (h : m.Held t m')
    (caller : Caller) : m'.finds caller = m.finds caller := by
  rw [finds, finds, h.exported]

theorem Code.safe {code : Code α} {caller : Caller} {m : Machine} (hw : m.Whole) :
    code.Safe caller m where
  strict hreach := Strict.answer_eq (hreach.keeps Machine.whole_kept hw) _ _
  surfaces hm _ _ _ _ hreach _ :=
    Machine.result_answer_iff.trans (Machine.denies_iff_refuses
      (((hreach.keeps Machine.held_kept).finds_eq caller).trans hm))
  homeless hm _ _ _ _ hreach _ :=
    Machine.result_answer_iff.trans (Machine.denies_iff_homeless
      (((hreach.keeps Machine.held_kept).finds_eq caller).trans hm))

end GuestHost
