import GuestHost.Proofs.Boot
import GuestHost.Proofs.Session.Created
import GuestHost.Proofs.Session.Latch

/-! Booting from end to end: the guest is initialized, the image is loaded where the guest wants it,
and the guest runs on it. Whatever has happened to it before, it gets the same image again. -/
namespace GuestHost

/-- An image of `n` bytes has come to lie at `ptr`, and nothing else has changed. -/
structure Memory.Holds (before : Memory) (rom : ByteArray) (n ptr : Nat) (after : Memory) :
    Prop where
  size : after.size = before.size
  maxPages : after.maxPages = before.maxPages
  inside : ∀ i < n, Bytes.byteAt after.bytes (ptr + i) = Bytes.byteAt rom i
  outside : ∀ i, i < ptr ∨ ptr + n ≤ i → Bytes.byteAt after.bytes i = Bytes.byteAt before.bytes i

theorem Memory.holds_put {before : Memory} {rom image : ByteArray} {n ptr : Nat}
    (himage : image.size = n ∧ ∀ i < n, Bytes.byteAt image i = Bytes.byteAt rom i)
    (h : ptr + n ≤ before.size) : before.Holds rom n ptr (before.put ptr image) := by
  obtain ⟨rfl, hbytes⟩ := himage
  refine ⟨size_put h, rfl, fun i hi => ?_, fun i hi => ?_⟩
  · rw [byteAt_put h, if_pos (by omega), Nat.add_sub_cancel_left, hbytes i hi]
  · rw [byteAt_put h, if_neg (by omega)]

namespace Session

variable {s s' : Session} {r : Except Error Unit} {vm : Vm} {m : Machine} {ptr : UInt32}
  {t : List Output}

/-- What is said of an image that is too long. -/
def truncation (s : Session) : List Output :=
  if s.romLength < s.rom.size then
    [.note (.romTruncated s.rom.size s.config.memory.romCapacity)]
  else []

theorem calls_truncation (s : Session) : calls s.truncation = [] := by
  unfold truncation
  split <;> rfl

/-- Initialized, the guest wants its image at `ptr`; by then its machine is `m`. -/
def Prepares (s : Session) (ptr : UInt32) (m : Machine) (t : List Output) : Prop :=
  ∃ m₁ t₁ t₂, s.vm.entry.init.run s.vm.machine = ⟨.ok (), m₁, t₁⟩ ∧
    s.vm.entry.romPtr.run m₁ = ⟨.ok ptr, m, t₂⟩ ∧
    t = .call .init :: (t₁ ++ (s.truncation ++ .call .romPtr :: t₂))

/-- Each way in which a boot can end, and what it leaves of the guest. -/
inductive BringsUp (s : Session) : Except Error Unit → Vm → List Output → Prop where
  | initStops {stop : Stop} {m : Machine} {t : List Output}
      (hinit : s.vm.entry.init.run s.vm.machine = ⟨.error stop, m, t⟩) :
      BringsUp s (.error (stop.error .init)) (s.vm.faultedWith m)
        (.call .init :: t ++ [.note (.guestFaulted (stop.error .init))])
  | ptrStops {stop : Stop} {m₁ m : Machine} {t₁ t₂ : List Output}
      (hinit : s.vm.entry.init.run s.vm.machine = ⟨.ok (), m₁, t₁⟩)
      (hptr : s.vm.entry.romPtr.run m₁ = ⟨.error stop, m, t₂⟩) :
      BringsUp s (.error (stop.error .getRomPtr)) (s.vm.faultedWith m)
        (.call .init :: t₁ ++ (s.truncation ++
          (.call .romPtr :: t₂ ++ [.note (.guestFaulted (stop.error .getRomPtr))])))
  | misfits {ptr : UInt32} {m : Machine} {t : List Output} (h : s.Prepares ptr m t)
      (hover : m.memory.size < ptr.toNat + s.romLength) :
      BringsUp s (.error (.outOfRange ptr.toNat s.romLength m.memory.size))
        (s.vm.withMachine m) t
  | mainStops {ptr : UInt32} {m m' : Machine} {memory : Memory} {stop : Stop} {t t' : List Output}
      (h : s.Prepares ptr m t) (hw : m.memory.write ptr s.loadedRom = .ok memory)
      (hmain : s.vm.entry.main { m with memory } = ⟨.error stop, m', t'⟩) :
      BringsUp s (.error (stop.error .runMain)) (s.vm.faultedWith m')
        (t ++ .note (.romLoaded s.romLength ptr) ::
          (t' ++ [.note (.guestFaulted (stop.error .runMain))]))
  | ends {ptr : UInt32} {m m' : Machine} {memory : Memory} {t t' : List Output}
      (h : s.Prepares ptr m t) (hw : m.memory.write ptr s.loadedRom = .ok memory)
      (hmain : s.vm.entry.main { m with memory } = ⟨.ok (), m', t'⟩) :
      BringsUp s (.ok ()) (s.vm.withMachine { m' with console := {} })
        (t ++ .note (.romLoaded s.romLength ptr) :: (t' ++ m'.console.leftover.map .line))

/-- What is said and called before the image is written. -/
theorem Prepares.said (h : s.Prepares ptr m t) : calls t = [.init, .romPtr] ∧
    cuts t =
      if s.romLength < s.rom.size then [(s.rom.size, s.config.memory.romCapacity)] else [] := by
  obtain ⟨m₁, t₁, t₂, hinit, hptr, rfl⟩ := h
  simp only [calls_call, calls_append, cuts_call, cuts_append, calls_of_run hinit,
    calls_of_run hptr, cuts_of_run hinit, cuts_of_run hptr, calls_truncation, List.nil_append,
    List.append_nil, true_and]
  unfold truncation
  split <;> rfl

theorem write_loadedRom {memory : Memory} (h : ptr.toNat + s.romLength ≤ memory.size) :
    memory.write ptr s.loadedRom = .ok (memory.put ptr.toNat s.loadedRom) := by
  have hbound := romLength_lt_bound s ptr
  rw [← size_loadedRom] at h hbound
  exact Memory.write_of_le h hbound

/-- There is no room for the image, or the guest runs on it. -/
theorem Prepares.exists_bringsUp (h : s.Prepares ptr m t) : ∃ r vm t', s.BringsUp r vm (t ++ t') ∧
    cuts t' = [] ∧ calls t' =
      if ptr.toNat + s.romLength ≤ m.memory.size ∧ s.vm.entry.runMain.isSome then [.runMain]
      else [] := by
  by_cases hfits : ptr.toNat + s.romLength ≤ m.memory.size
  · have hw := write_loadedRom hfits
    simp only [hfits, true_and]
    rcases hmain : s.vm.entry.main { m with memory := m.memory.put ptr.toNat s.loadedRom } with
      ⟨stop | _, m', t'⟩
    all_goals obtain ⟨hcuts, hcalls⟩ := Guest.Entrypoints.said_of_main hmain
    · refine ⟨_, _, _, .mainStops h hw hmain, ?_, ?_⟩
      · exact (cuts_append t' _).trans (by rw [hcuts]; rfl)
      · rw [calls_note, calls_append, hcalls]
        exact List.append_nil _
    · refine ⟨_, _, _, .ends h hw hmain, ?_, ?_⟩
      · refine (cuts_append t' _).trans ?_
        rw [hcuts, cuts_of_fromGuest (fromGuest_lines _)]
        rfl
      · rw [calls_note, calls_append, hcalls, calls_of_fromGuest (fromGuest_lines _)]
        exact List.append_nil _
  · have hway := BringsUp.misfits h (Nat.not_le.mp hfits)
    rw [← List.append_nil t] at hway
    refine ⟨_, _, [], hway, rfl, ?_⟩
    rw [if_neg fun hboth => hfits hboth.1, calls_nil]

/-- Every guest takes one of the ways. -/
theorem exists_bringsUp (s : Session) : ∃ r vm t, s.BringsUp r vm t := by
  rcases hinit : s.vm.entry.init.run s.vm.machine with ⟨stop | _, m₁, t₁⟩
  · exact ⟨_, _, _, .initStops hinit⟩
  rcases hptr : s.vm.entry.romPtr.run m₁ with ⟨stop | ptr, m, t₂⟩
  · exact ⟨_, _, _, .ptrStops hinit hptr⟩
  have hready : s.Prepares ptr m _ := ⟨m₁, t₁, t₂, hinit, hptr, rfl⟩
  obtain ⟨r, vm, t', h, -, -⟩ := hready.exists_bringsUp
  exact ⟨r, vm, _, h⟩

theorem loadAt_eq (s : Session) (ptr : UInt32) :
    s.loadAt ptr = onVm (Vm.launch s.loadedRom ptr) := by
  rw [Vm.launch, onVm_bind, size_loadedRom]
  refine bind_congr fun _ => ?_
  rw [onVm_bind]
  refine bind_congr fun _ => ?_
  rw [Vm.start, onVm_bind]
  refine bind_congr fun ran => ?_
  cases ran with
  | true => rfl
  | false => rfl

/-- The session with a guest that has been dealt with and with all keys released. -/
def broughtUp (s : Session) (vm : Vm) (l : Lifecycle) : Session :=
  { s with vm, input := s.input.reset, lifecycle := l }

section Unfaulted

variable (hf : s.vm.faulted = false) (l : Lifecycle)

theorem bringUp_of_initialized {vm₁ : Vm} {t₁ t₂ : List Output}
    (hinit : Vm.init s.vm = ⟨.ok (), vm₁, t₁⟩)
    (hrest : (Vm.romAddress >>= Vm.launch s.loadedRom) vm₁ = ⟨r, vm, t₂⟩) :
    bringUp { s with lifecycle := l } = ⟨r, s.broughtUp vm l, t₁ ++ (s.truncation ++ t₂)⟩ := by
  have hfirst : onVm Vm.init { s with input := s.input.reset, lifecycle := l } =
      ⟨.ok (), s.broughtUp vm₁ l, t₁⟩ := onVm_eq hinit
  have hload : (onVm Vm.romAddress >>= s.loadAt) (s.broughtUp vm₁ l) =
      ⟨r, s.broughtUp vm l, t₂⟩ := by
    rw [funext (loadAt_eq s), ← onVm_bind, onVm_eq hrest]
    rfl
  -- What is said of the image comes in between, whether or not it is anything.
  have hsay : ∀ t₀, (⟨_, _, t₁ ++ (t₀ ++ _)⟩ : Outcome Error Session Unit) =
      ⟨r, s.broughtUp vm l, t₁ ++ (t₀ ++ t₂)⟩ := fun t₀ =>
    congrArg (fun o : Outcome Error Session Unit =>
      (⟨o.result, o.state, t₁ ++ (t₀ ++ o.trace)⟩ : Outcome Error Session Unit)) hload
  unfold bringUp truncation
  refine (Act.bind_of_ok hfirst).trans ?_
  rw [Act.get_bind]
  by_cases hc : s.romLength < s.rom.size
  · have hcut : (s.broughtUp vm₁ l).romLength < (s.broughtUp vm₁ l).rom.size := hc
    rw [if_pos hcut, if_pos hc, Act.note_bind]
    exact hsay [_]
  · have hwhole : ¬(s.broughtUp vm₁ l).romLength < (s.broughtUp vm₁ l).rom.size := hc
    rw [if_neg hwhole, if_neg hc]
    exact hsay []

include hf

theorem Prepares.bringUp_eq (h : s.Prepares ptr m t) {t' : List Output}
    (hlaunch : Vm.launch s.loadedRom ptr (s.vm.withMachine m) = ⟨r, vm, t'⟩) :
    bringUp { s with lifecycle := l } = ⟨r, s.broughtUp vm l, t ++ t'⟩ := by
  obtain ⟨m₁, t₁, t₂, hinit, hptr, rfl⟩ := h
  have hask : Vm.romAddress (s.vm.withMachine m₁) = ⟨.ok ptr, s.vm.withMachine m, _⟩ :=
    Vm.romAddress_of_ok hf hptr
  have hrest : (Vm.romAddress >>= Vm.launch s.loadedRom) (s.vm.withMachine m₁) =
      ⟨r, vm, .call .romPtr :: t₂ ++ t'⟩ := by
    rw [Act.bind_of_ok hask, hlaunch]
  rw [bringUp_of_initialized l (Vm.init_of_ok hf hinit) hrest]
  simp only [List.cons_append, List.append_assoc]

/-- One case for each way. -/
theorem BringsUp.bringUp_eq (h : s.BringsUp r vm t) :
    bringUp { s with lifecycle := l } = ⟨r, s.broughtUp vm l, t⟩ := by
  cases h with
  | initStops hinit =>
    let s₁ : Session := { s with input := s.input.reset, lifecycle := l }
    have hfirst : onVm Vm.init s₁ = _ := onVm_eq (Vm.init_of_error hf hinit)
    unfold bringUp
    exact (Act.bind_of_error hfirst).trans rfl
  | @ptrStops stop m₁ m t₁ t₂ hinit hptr =>
    have hask : Vm.romAddress (s.vm.withMachine m₁) = ⟨_, s.vm.faultedWith m, _⟩ :=
      Vm.romAddress_of_error hf hptr
    exact bringUp_of_initialized l (Vm.init_of_ok hf hinit) (Act.bind_of_error hask)
  | misfits h hover =>
    rw [← size_loadedRom] at hover ⊢
    rw [h.bringUp_eq hf l (Vm.launch_of_misfit hover), List.append_nil]
    rfl
  | @mainStops ptr m m' memory stop t t' h hw hmain =>
    have hwrite : (s.vm.withMachine m).memory.write ptr s.loadedRom = .ok memory := hw
    have hstart : Vm.start ((s.vm.withMachine m).withMemory memory) = ⟨_, s.vm.faultedWith m', _⟩ :=
      Vm.start_of_error hf hmain
    rw [h.bringUp_eq hf l (Vm.launch_of_fit hwrite hstart), size_loadedRom]
  | @ends ptr m m' memory t t' h hw hmain =>
    have hwrite : (s.vm.withMachine m).memory.write ptr s.loadedRom = .ok memory := hw
    have hstart : Vm.start ((s.vm.withMachine m).withMemory memory) =
        ⟨_, s.vm.withMachine { m' with console := {} }, _⟩ := Vm.start_of_ok hf hmain
    rw [h.bringUp_eq hf l (Vm.launch_of_fit hwrite hstart), size_loadedRom]

end Unfaulted

namespace BringsUp

variable (hf : s.vm.faulted = false)
include hf

theorem boot_of_ok (h : s.BringsUp (.ok ()) vm t) : boot s =
    ⟨.ok (), s.broughtUp vm .running, .note .booting :: (t ++ [.note .running])⟩ :=
  Session.boot_of_ok (h.bringUp_eq hf .booting)

theorem boot_of_error {e : Error} (h : s.BringsUp (.error e) vm t) : boot s =
    ⟨.error e, s.broughtUp vm .unbooted, .note .booting :: (t ++ [.note (.bootFailed e)])⟩ :=
  Session.boot_of_error (h.bringUp_eq hf .booting)

/-- However it ends: what is held is released, and nothing else of the session is lost. -/
theorem boot_eq (h : s.BringsUp r vm t) : ∃ l, (boot s).state = s.broughtUp vm l := by
  cases r with
  | ok _ => exact ⟨_, congrArg Outcome.state (h.boot_of_ok hf)⟩
  | error e => exact ⟨_, congrArg Outcome.state (h.boot_of_error hf)⟩

end BringsUp

/-- The image is the beginning of what was given as the ROM. -/
theorem loadedRom_begins (s : Session) : s.loadedRom.size = s.romLength ∧
    ∀ i < s.romLength, Bytes.byteAt s.loadedRom i = Bytes.byteAt s.rom i := by
  have hle : s.romLength ≤ s.rom.size := Nat.min_le_left _ _
  refine ⟨size_loadedRom s, fun i hi => ?_⟩
  rw [loadedRom, Bytes.byteAt_extract hle, if_pos (by omega), Nat.zero_add]

/-- Settings that have been checked leave room for at least one byte. -/
theorem romLength_pos (hv : s.config.validate = .ok ()) (hr : s.rom.size ≠ 0) :
    1 ≤ s.romLength := by
  have hd := Config.defect?_of_validate hv
  have hroom : ¬s.config.memory.size ≤ s.config.memory.reservedHeader := by
    intro hle
    simp only [Config.defect?, if_pos hle] at hd
    split_ifs at hd
  have hlt : s.config.memory.reservedHeader.toNat < s.config.memory.size.toNat :=
    Nat.not_le.mp fun hle => hroom (UInt32.le_iff_toNat_le.mpr hle)
  unfold romLength Config.AddressSpace.romCapacity
  omega

/-- A boot of this session loads the first `n` bytes of `rom`. -/
structure BootsWith (s : Session) (rom : ByteArray) (n : Nat) : Prop where
  released : (boot s).state.mask = 0
  boundPad : (boot s).state.input.boundPad = s.input.boundPad
  snapshot : (boot s).state.snapshot = s.snapshot
  fits : ∀ {ptr m t}, s.Prepares ptr m t → ptr.toNat + n ≤ m.memory.size →
    ∃ memory, m.memory.Holds rom n ptr.toNat memory ∧
      (∀ m' t', s.vm.entry.main { m with memory } = ⟨.ok (), m', t'⟩ → boot s =
        ⟨.ok (), s.broughtUp (s.vm.withMachine { m' with console := {} }) .running,
          .note .booting :: (t ++ .note (.romLoaded n ptr) ::
            (t' ++ m'.console.leftover.map .line) ++ [.note .running])⟩) ∧
      ∀ stop m' t', s.vm.entry.main { m with memory } = ⟨.error stop, m', t'⟩ →
        (boot s).result = .error (stop.error .runMain) ∧
          (boot s).state = s.broughtUp (s.vm.faultedWith m') .unbooted
  misfits : ∀ {ptr m t}, s.Prepares ptr m t → m.memory.size < ptr.toNat + n →
    (boot s).result = .error (.outOfRange ptr.toNat n m.memory.size) ∧
      (boot s).state = s.broughtUp (s.vm.withMachine m) .unbooted ∧
      (boot s).state.vm.faulted = false
  calls : ∀ {ptr m t}, s.Prepares ptr m t → calls (boot s).trace = .init :: .romPtr ::
    if ptr.toNat + n ≤ m.memory.size ∧ s.vm.entry.runMain.isSome then [.runMain] else []
  warns : ∀ {ptr m t}, s.Prepares ptr m t → cuts (boot s).trace =
    if n < rom.size then [(rom.size, s.config.memory.romCapacity)] else []

theorem BringsUp.said (hf : s.vm.faulted = false) (h : s.BringsUp r vm t) :
    GuestHost.calls (boot s).trace = GuestHost.calls t ∧ cuts (boot s).trace = cuts t := by
  cases r with
  | ok _ =>
    rw [h.boot_of_ok hf, calls_note, calls_append]
    exact ⟨List.append_nil _, (cuts_append t _).trans (List.append_nil _)⟩
  | error e =>
    rw [h.boot_of_error hf, calls_note, calls_append]
    exact ⟨List.append_nil _, (cuts_append t _).trans (List.append_nil _)⟩

theorem bootsWith (hf : s.vm.faulted = false) : s.BootsWith s.rom s.romLength := by
  obtain ⟨r, vm, t, hway⟩ := exists_bringsUp s
  obtain ⟨l, hstate⟩ := hway.boot_eq hf
  constructor
  case released =>
    rw [hstate]
    change (0 : UInt8) ||| 0 = 0
    decide
  case boundPad => rw [hstate]; rfl
  case snapshot => rw [hstate]; rfl
  case fits =>
    intro ptr m t h hfits
    have hw := write_loadedRom hfits
    refine ⟨_, Memory.holds_put (loadedRom_begins s) hfits, ?_, ?_⟩
    · intro m' t' hmain
      rw [(BringsUp.ends h hw hmain).boot_of_ok hf]
    · intro stop m' t' hmain
      rw [(BringsUp.mainStops h hw hmain).boot_of_error hf]
      exact ⟨rfl, rfl⟩
  case misfits =>
    intro ptr m t h hover
    rw [(BringsUp.misfits h hover).boot_of_error hf]
    exact ⟨rfl, rfl, hf⟩
  case calls =>
    intro ptr m t h
    obtain ⟨r, vm, t', hway, -, hcalls⟩ := h.exists_bringsUp
    rw [(hway.said hf).1, calls_append, hcalls, h.said.1]
    rfl
  case warns =>
    intro ptr m t h
    obtain ⟨r, vm, t', hway, hcuts, -⟩ := h.exists_bringsUp
    rw [(hway.said hf).2, cuts_append, hcuts, h.said.2, List.append_nil]

/-- Whatever has been done to the session before, and whatever its guest has made of the image. -/
theorem boot_loads_image {s : Session} (hv : s.config.validate = .ok ()) (hr : s.rom.size ≠ 0) :
    s.romLength = min s.rom.size
        (s.config.memory.size.toNat - s.config.memory.reservedHeader.toNat) ∧
      1 ≤ s.romLength ∧
      ∀ ops, (performAll ops s).state.vm.faulted = false →
        (performAll ops s).state.BootsWith s.rom s.romLength := by
  refine ⟨rfl, romLength_pos hv hr, fun ops hf => ?_⟩
  have hsame := sameSetup_performAll ops s
  have hlength : (performAll ops s).state.romLength = s.romLength := by
    rw [romLength, hsame.config, hsame.rom, romLength]
  have h := bootsWith hf
  rwa [hsame.rom, hlength] at h

/-- The one byte of the image is written over; the next boot brings it back. -/
theorem boot_loads_image_quiet : quiet.romLength = 1 ∧
    Bytes.byteAt (performAll [.boot, .poke 0 ⟨#[7]⟩] quiet).state.vm.memory.bytes 0 = 7 ∧
    Bytes.byteAt (performAll [.boot, .poke 0 ⟨#[7]⟩, .boot] quiet).state.vm.memory.bytes 0 =
      0xa0 := by
  obtain ⟨-, hpos, hboots⟩ := boot_loads_image (s := quiet) rfl (by decide)
  have hone : quiet.romLength = 1 := Nat.le_antisymm (Nat.min_le_left _ _) hpos
  obtain ⟨memory, t, hsize, hboot⟩ := quiet_boot
  let s₁ : Session := { quiet.withMemory memory with lifecycle := .running }
  let s₂ : Session := { s₁ with vm := s₁.vm.withMemory (memory.put 0 ⟨#[7]⟩) }
  have hroom : (0 : UInt32).toNat + (⟨#[7]⟩ : ByteArray).size ≤ memory.size := by
    rw [hsize]
    decide
  have hpoke : onVm (Vm.write 0 ⟨#[7]⟩) s₁ = ⟨.ok (), s₂, []⟩ :=
    onVm_eq (Vm.write_of_ok (Memory.write_of_le hroom (by decide)))
  have hnone : ∀ s : Session, (performAll [] s).state = s := fun _ => rfl
  have hpoked : ((Operation.poke 0 ⟨#[7]⟩).act (Operation.boot.act quiet).state).state = s₂ := by
    rw [Operation.act, Operation.act, hboot]
    exact congrArg Outcome.state hpoke
  have hstate : (performAll [.boot, .poke 0 ⟨#[7]⟩] quiet).state = s₂ := by
    rw [performAll_cons, performAll_cons, hpoked, hnone]
  have hagain : (performAll [.boot, .poke 0 ⟨#[7]⟩, .boot] quiet).state = (boot s₂).state := by
    rw [performAll_cons, performAll_cons, performAll_cons, hpoked, hnone, Operation.act]
  have h := hboots [.boot, .poke 0 ⟨#[7]⟩] (hstate ▸ rfl)
  rw [hstate, hone] at h
  have hready : s₂.Prepares 0 s₂.vm.machine _ := ⟨_, _, _, rfl, rfl, rfl⟩
  obtain ⟨memory', hholds, hok, -⟩ := h.fits hready ((Memory.size_put hroom).symm ▸ hroom)
  refine ⟨hone, ?_, ?_⟩
  · have hbyte := (Memory.byteAt_put hroom 0).trans (if_pos (by decide))
    rw [hstate]
    exact hbyte.trans (by decide)
  · rw [hagain, hok _ _ rfl]
    exact hholds.inside 0 (by decide)

end Session

end GuestHost
