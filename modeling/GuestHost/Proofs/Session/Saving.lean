import GuestHost.Proofs.Session.Parts
import GuestHost.Proofs.Snapshot
import Mathlib.Tactic.SplitIfs

/-! Saving and restoring over whole runs. Only a save that succeeds replaces the snapshot, by the
region that the guest declares at that moment. -/
namespace GuestHost.Session

variable {s : Session} {ptr size : UInt32} {m : Machine}

/-- The session runs, and its guest tells where its state is and leaves the machine `m`. -/
structure Tells (s : Session) (ptr size : UInt32) (m : Machine) : Prop where
  running : s.lifecycle = .running
  unfaulted : s.vm.faulted = false
  declares : s.vm.Declares ptr size m

theorem save_of_le (h : s.Tells ptr size m) (hfits : ptr.toNat + size.toNat ≤ m.memory.size) :
    ∃ t, save s = ⟨.ok (), { s with
      vm := { s.vm with machine := m }
      snapshot := some ⟨m.memory.bytes.extract ptr.toNat (ptr.toNat + size.toNat)⟩ }, t⟩ := by
  obtain ⟨t, ht⟩ := Snapshot.take_of_le h.unfaulted h.declares hfits
  rw [save_of_running h.running]
  exact Act.bind_reaches (onVm_eq ht) ⟨_, rfl⟩

theorem save_of_lt (h : s.Tells ptr size m) (hover : m.memory.size < ptr.toNat + size.toNat) :
    ∃ t, save s = ⟨.error (.outOfRange ptr.toNat size.toNat m.memory.size),
      { s with vm := { s.vm with machine := m } }, t⟩ := by
  obtain ⟨t, ht⟩ := Snapshot.take_of_lt h.unfaulted h.declares hover
  rw [save_of_running h.running]
  exact ⟨t, Act.bind_of_error (onVm_eq ht)⟩

/-- A save that fails stores nothing. -/
theorem snapshot_save_of_error {e : Error} (h : (save s).result = .error e) :
    (save s).state.snapshot = s.snapshot := by
  by_cases hr : s.lifecycle = .running
  · rw [save_of_running hr] at h ⊢
    rcases ht : Snapshot.take s.vm with ⟨e | snapshot, vm, t⟩
    · rw [Act.bind_of_error (onVm_eq ht)]
    · rw [Act.bind_of_ok (onVm_eq ht)] at h
      cases h
  · rw [save_of_not_running hr]

/-- A save that succeeds stores the region that the guest has declared meanwhile. -/
theorem region_of_save (h : (save s).result = .ok ()) :
    ∃ ptr size m, s.vm.Declares ptr size m ∧ ptr.toNat + size.toNat ≤ m.memory.size ∧
      (save s).state = { s with
        vm := { s.vm with machine := m }
        snapshot := some ⟨m.memory.bytes.extract ptr.toNat (ptr.toNat + size.toNat)⟩ } := by
  by_cases hr : s.lifecycle = .running
  · have hrun := save_of_running hr
    rw [hrun] at h
    obtain ⟨snapshot, s₁, t, ht, -, -⟩ := Act.ok_of_bind h
    have htake : (Snapshot.take s.vm).result = .ok snapshot := congrArg Outcome.result ht
    obtain ⟨hf, ptr, size, m, hm, hfits, -, -⟩ := Snapshot.declares_of_take htake
    obtain ⟨t, hsave⟩ := save_of_le ⟨hr, hf, hm⟩ hfits
    exact ⟨ptr, size, m, hm, hfits, congrArg Outcome.state hsave⟩
  · rw [save_of_not_running hr] at h
    cases h

theorem restore_of_le {snapshot : Snapshot} (h : s.Tells ptr size m)
    (hs : s.snapshot = some snapshot) (hfits : ptr.toNat + snapshot.size ≤ m.memory.size)
    (hb : ptr.toNat + snapshot.size < Word.bound) :
    ∃ t, restore s = ⟨.ok (), { s with vm := { s.vm with machine := { m with memory := {
      m.memory with bytes := Bytes.overwrite m.memory.bytes ptr.toNat snapshot.bytes } } } },
      t⟩ := by
  obtain ⟨t, ht⟩ := Snapshot.restore_of_le h.unfaulted h.declares hfits hb
  rw [restore_of_some h.running hs]
  exact Act.bind_reaches (onVm_eq ht) ⟨_, rfl⟩

theorem restore_of_lt {snapshot : Snapshot} (h : s.Tells ptr size m)
    (hs : s.snapshot = some snapshot) (hover : m.memory.size < ptr.toNat + snapshot.size) :
    ∃ t, restore s = ⟨.error (.outOfRange ptr.toNat snapshot.size m.memory.size),
      { s with vm := { s.vm with machine := m } }, t⟩ := by
  obtain ⟨t, ht⟩ := Snapshot.restore_of_lt h.unfaulted h.declares hover
  rw [restore_of_some h.running hs]
  exact ⟨t, Act.bind_of_error (onVm_eq ht)⟩

/-- The snapshot is left alone. -/
def Retained (s : Session) (_ : List Output) (s' : Session) : Prop :=
  s'.snapshot = s.snapshot

theorem retained_law : Act.Law Retained where
  refl _ := rfl
  trans h h' := h'.trans h

theorem retained_parts : Parts Retained where
  toLaw := retained_law
  note _ _ _ := rfl
  reply _ _ := rfl
  guest _ _ := rfl
  gesture _ := rfl
  connect _ _ _ := rfl
  disconnect _ _ := rfl
  release _ := rfl
  enter _ _ := rfl
  update := keeps_update retained_law (fun _ _ => rfl) (fun _ _ => rfl) fun _ => rfl
  forwardKey := keeps_forwardKey retained_law (fun _ _ => rfl) fun _ _ => rfl

/-- What saving this session stores, if it succeeds. -/
def stored? (s : Session) : Option Snapshot :=
  match (save s).result with
  | .ok () => (save s).state.snapshot
  | .error _ => none

theorem snapshot_save (s : Session) : (save s).state.snapshot = s.stored?.or s.snapshot := by
  unfold stored?
  cases h : (save s).result with
  | error e => exact snapshot_save_of_error h
  | ok a =>
    obtain ⟨ptr, size, m, -, -, hs⟩ := region_of_save h
    rw [hs]
    rfl

theorem snapshot_act (op : Operation) (s : Session) :
    (op.act s).state.snapshot = ((op.savesOn s).bind stored?).or s.snapshot := by
  cases h : op.savesOn s with
  | none => exact retained_parts.keeps_act fun hne => absurd h hne
  | some s₀ =>
    obtain ⟨hs₀, hact⟩ := Operation.act_of_savesOn h
    rw [hact, snapshot_save, hs₀]
    rfl

/-- What the last successful save of a run stores. -/
def lastSaved : List Operation → Session → Option Snapshot
  | [], _ => none
  | op :: rest, s => (lastSaved rest (op.act s).state).or ((op.savesOn s).bind stored?)

theorem snapshot_performAll (ops : List Operation) (s : Session) :
    (performAll ops s).state.snapshot = (lastSaved ops s).or s.snapshot := by
  induction ops generalizing s with
  | nil => rfl
  | cons op rest ih =>
    rw [performAll_cons, lastSaved, Option.or_assoc, ← snapshot_act]
    exact ih (op.act s).state

/-- Every snapshot was once a region of which a guest told the size in 32 bits. -/
def Small (s : Session) : Prop :=
  ∀ {snapshot}, s.snapshot = some snapshot → snapshot.size < UInt32.size

theorem small_law : Act.Law fun s _ s' => Small s → Small s' where
  refl _ h := h
  trans h h' hs := h' (h hs)

theorem small_parts : Parts fun s _ s' => Small s → Small s' :=
  retained_parts.weaken small_law fun h hs _ hsnap => hs (h ▸ hsnap)

theorem small_save : Act.Keeps (fun s _ s' => Small s → Small s') save := by
  intro s hs
  cases h : (save s).result with
  | error e =>
    intro snapshot hsnap
    rw [snapshot_save_of_error h] at hsnap
    exact hs hsnap
  | ok a =>
    obtain ⟨ptr, size, m, -, hfits, hsaved⟩ := region_of_save h
    intro snapshot hsnap
    rw [hsaved] at hsnap
    cases hsnap
    have hsize := size.toNat_lt_size
    change (m.memory.bytes.extract ptr.toNat (ptr.toNat + size.toNat)).size < _
    rw [ByteArray.size_extract]
    omega

/-- A save stores what the guest tells meanwhile, and is refused when the memory has no such
region. -/
structure SavesDeclared (s : Session) : Prop where
  stored : (save s).result = .ok () → ∃ ptr size m, s.vm.Declares ptr size m ∧
    ptr.toNat + size.toNat ≤ m.memory.size ∧ (save s).state.snapshot =
      some ⟨m.memory.bytes.extract ptr.toNat (ptr.toNat + size.toNat)⟩
  answered : ∀ {ptr size m}, s.Tells ptr size m → (save s).result =
    if ptr.toNat + size.toNat ≤ m.memory.size then .ok ()
    else .error (.outOfRange ptr.toNat size.toNat m.memory.size)

/-- A restore overwrites as many bytes as the snapshot has, from where the guest tells meanwhile,
and nothing else. -/
structure RestoresDeclared (s : Session) : Prop where
  written : ∀ {snapshot ptr size m}, s.Tells ptr size m → s.snapshot = some snapshot →
    ptr.toNat + snapshot.size ≤ m.memory.size → (restore s).result = .ok () ∧
      (restore s).state.memory.size = m.memory.size ∧ ∀ i,
        Bytes.byteAt (restore s).state.memory.bytes i =
          if ptr.toNat ≤ i ∧ i < ptr.toNat + snapshot.size then
            Bytes.byteAt snapshot.bytes (i - ptr.toNat)
          else Bytes.byteAt m.memory.bytes i
  refused : ∀ {snapshot ptr size m}, s.Tells ptr size m → s.snapshot = some snapshot →
    m.memory.size < ptr.toNat + snapshot.size →
      (restore s).result = .error (.outOfRange ptr.toNat snapshot.size m.memory.size) ∧
        (restore s).state.memory = m.memory

theorem savesDeclared (s : Session) : SavesDeclared s where
  stored h := by
    obtain ⟨ptr, size, m, hm, hfits, hs⟩ := region_of_save h
    exact ⟨ptr, size, m, hm, hfits, by rw [hs]⟩
  answered {ptr size m} h := by
    split_ifs with hfits
    · obtain ⟨t, ht⟩ := save_of_le h hfits
      rw [ht]
    · obtain ⟨t, ht⟩ := save_of_lt h (Nat.lt_of_not_le hfits)
      rw [ht]

theorem restoresDeclared (hsmall : s.Small) : RestoresDeclared s where
  written {snapshot ptr size m} h hs hfits := by
    have hb : ptr.toNat + snapshot.size < Word.bound := by
      have hp := ptr.toNat_lt_size
      have hk := hsmall hs
      have hw : UInt32.size + UInt32.size ≤ Word.bound := by decide
      omega
    obtain ⟨t, ht⟩ := restore_of_le h hs hfits hb
    rw [ht]
    exact ⟨rfl, Bytes.size_overwrite hfits, Bytes.byteAt_overwrite hfits⟩
  refused h hs hover := by
    obtain ⟨t, ht⟩ := restore_of_lt h hs hover
    rw [ht]
    exact ⟨rfl, rfl⟩

/-- Whatever is done to a session, its snapshot is that of the last successful save; saves and
restores do at every point of the run what the guest tells at that point. A hotkey saves and
restores after it has tried to wake the device. -/
theorem snapshot_eq_lastSaved (hc : s.Created) (ops : List Operation) :
    (performAll ops s).state.snapshot = lastSaved ops s ∧
      ∀ s', s' = (performAll ops s).state ∨ s' = (performAll ops s).state.woken →
        SavesDeclared s' ∧ RestoresDeclared s' := by
  have hnone := hc.fresh.2.2
  have hfirst : s.Small := fun hs => by rw [hnone] at hs; cases hs
  have hsmall : (performAll ops s).state.Small :=
    small_parts.keeps_performAll small_save ops s hfirst
  refine ⟨by rw [snapshot_performAll, hnone, Option.or_none], ?_⟩
  rintro s' (rfl | rfl)
  · exact ⟨savesDeclared _, restoresDeclared hsmall⟩
  · exact ⟨savesDeclared _, restoresDeclared fun hs => hsmall hs⟩

theorem snapshot_eq_lastSaved_quiet :
    (performAll [.boot, .restore] quiet).state.snapshot = none ∧
      (save (performAll [.boot] quiet).state).result = .ok () := by
  obtain ⟨memory, t, hsize, hb⟩ := quiet_boot
  have hrun := performAll_cons .boot [] quiet
  rw [show Operation.act .boot quiet = _ from hb] at hrun
  have htells : (performAll [.boot] quiet).state.Tells 16 4
      { quiet.vm.machine with memory } := by
    rw [hrun]
    exact ⟨rfl, rfl, _, _, _, _, _, rfl, rfl, rfl, rfl⟩
  have hfits : (16 : UInt32).toNat + (4 : UInt32).toNat ≤ memory.size := by
    rw [hsize]
    decide
  refine ⟨(snapshot_eq_lastSaved quiet_created [.boot, .restore]).1.trans rfl, ?_⟩
  have hsaves := ((snapshot_eq_lastSaved quiet_created [.boot]).2 _ (.inl rfl)).1
  rw [hsaves.answered htells, if_pos hfits]

end GuestHost.Session
