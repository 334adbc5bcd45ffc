import GuestHost.Proofs.Dealing
import GuestHost.Proofs.Session.Course
import GuestHost.Proofs.Session.Features

/-! Pulls of audio. What a pull brings is up to the session and its guest; of the chunk that is lent
for it nothing is left. -/
namespace GuestHost

namespace Vm

variable {vm : Vm} {ask : Routine UInt32} {m : Machine} {t : List Output} (hf : vm.faulted = false)
  (hask : vm.entry.audioSamples = some ask)
include hf hask

theorem samplesAddress_of_ok {ptr : UInt32} (h : ask.run vm.machine = ⟨.ok ptr, m, t⟩) :
    samplesAddress vm = ⟨.ok (some ptr), { vm with machine := m }, .call .audioSamples :: t⟩ := by
  rw [samplesAddress, Act.get_bind, hask]
  exact callIf_of_ok hf h

theorem samplesAddress_of_error {stop : Stop} (h : ask.run vm.machine = ⟨.error stop, m, t⟩) :
    samplesAddress vm = ⟨.error (stop.error .getAudioSamples),
      { vm with machine := m, faulted := true },
      .call .audioSamples :: t ++ [.note (.guestFaulted (stop.error .getAudioSamples))]⟩ := by
  rw [samplesAddress, Act.get_bind, hask]
  exact callIf_of_error hf h

end Vm

namespace Session

/-- What the guest plays that is asked like this: the samples that lie where it says, in its memory
as the answer has left it. -/
def played (s : Session) (ask : Routine UInt32) : Except Error Chunk :=
  match ask.run s.vm.machine with
  | ⟨.error stop, _, _⟩ => .error (stop.error .getAudioSamples)
  | ⟨.ok ptr, m, _⟩ =>
    if ptr.toNat + 8 * s.chunkFrames ≤ m.memory.size then
      .ok (.planarAt m.memory.bytes ptr.toNat s.chunkFrames)
    else .error (.outOfRange ptr.toNat (8 * s.chunkFrames) m.memory.size)

/-- What a pull brings, silence where nothing plays. -/
def samples (s : Session) : Except Error Chunk :=
  if s.lifecycle = .running then
    if s.vm.faulted then .error .faulted
    else s.vm.entry.audioSamples.elim (.ok (.silent s.chunkFrames)) s.played
  else .ok (.silent s.chunkFrames)

/-- The pull ends like this, with one and the same trace for every chunk that is lent. -/
def Brings (s : Session) (r : Except Error Chunk) : Prop :=
  ∃ vm t, replies t = [] ∧ ∀ chunk, ∃ c,
    pullChunk (s, chunk) = ⟨r.map fun _ => (), ({ s with vm }, c), t⟩ ∧ ∀ c', r = .ok c' → c = c'

variable {s : Session} {r : Except Error Chunk} {t : List Output} {vm : Vm}

theorem Brings.of_ok {c : Chunk} (ht : replies t = [])
    (h : ∀ chunk, pullChunk (s, chunk) = ⟨.ok (), ({ s with vm }, c), t⟩) : Brings s (.ok c) :=
  ⟨vm, t, ht, fun chunk => ⟨c, h chunk, fun _ hc => Except.ok.inj hc⟩⟩

theorem Brings.of_error {e : Error} (ht : replies t = [])
    (h : ∀ chunk, pullChunk (s, chunk) =
      ⟨.error e, ({ s with vm }, chunk.resize s.chunkFrames), t⟩) : Brings s (.error e) :=
  ⟨vm, t, ht, fun chunk => ⟨_, h chunk, nofun⟩⟩

theorem brings_played {ask : Routine UInt32} (hs : s.lifecycle = .running)
    (hf : s.vm.faulted = false) (hask : s.vm.entry.audioSamples = some ask) :
    Brings s (s.played ask) := by
  have ht := replies_run ask s.vm.machine
  unfold played
  rcases hrun : ask.run s.vm.machine with ⟨stop | ptr, m, t⟩ <;> rw [hrun] at ht <;> dsimp only
  · have hstop := Vm.samplesAddress_of_error hf hask hrun
    have hpull := fun chunk => Vm.pullChunk_of_error s.chunkFrames chunk hstop
    refine .of_error ?_ fun chunk => pullChunk_eq hs (hpull chunk)
    rw [List.cons_append, replies_call, replies_append, ht]
    rfl
  · have hptr := Vm.samplesAddress_of_ok hf hask hrun
    have height : 8 * s.chunkFrames = s.chunkFrames * 2 * 4 := by omega
    rw [height]
    by_cases hfits : ptr.toNat + s.chunkFrames * 2 * 4 ≤ m.memory.size
    · have hb := s.samples_lt_bound ptr
      have hpull := fun chunk => Vm.pullChunk_of_le s.chunkFrames chunk hptr hfits hb
      rw [if_pos hfits]
      exact .of_ok ((replies_call _ t).trans ht) fun chunk => pullChunk_eq hs (hpull chunk)
    · have hover := Nat.lt_of_not_le hfits
      have hpull := fun chunk => Vm.pullChunk_of_lt s.chunkFrames chunk hptr hover
      rw [if_neg hfits]
      exact .of_error ((replies_call _ t).trans ht) fun chunk => pullChunk_eq hs (hpull chunk)

/-- The guest is asked at most once, and what it says is all that counts. -/
theorem brings_samples (s : Session) : Brings s s.samples := by
  unfold samples
  split_ifs with hs hf
  · have hask := Vm.samplesAddress_of_faulted hf
    have hpull := fun chunk => Vm.pullChunk_of_error s.chunkFrames chunk hask
    exact .of_error rfl fun chunk => pullChunk_eq hs (hpull chunk)
  · have hopen := Bool.eq_false_iff.mpr hf
    cases hask : s.vm.entry.audioSamples with
    | none =>
      have hpull := Vm.pullChunk_of_none hopen hask s.chunkFrames
      exact .of_ok rfl fun chunk => pullChunk_eq hs (hpull chunk)
    | some ask => exact brings_played hs hopen hask
  · exact ⟨s.vm, [], rfl, fun chunk =>
      ⟨_, pullChunk_of_not_running hs chunk, fun _ hc => Except.ok.inj hc⟩⟩

/-- Both channels have the length that is configured, whether or not something plays. -/
theorem size_of_samples {c : Chunk} (h : s.samples = .ok c) :
    c.left.size = s.chunkFrames ∧ c.right.size = s.chunkFrames := by
  have hsilent := Chunk.size_silent s.chunkFrames
  unfold samples at h
  split_ifs at h with hs hf
  · cases hask : s.vm.entry.audioSamples with
    | none =>
      rw [hask] at h
      cases h
      exact hsilent
    | some ask =>
      rw [hask, Option.elim_some, played] at h
      split at h
      · cases h
      · split_ifs at h with hfits
        cases h
        exact Chunk.size_planarAt _ _ _
  · cases h
    exact hsilent

/-- What a pull fails with is up to the guest, too. Samples are never a service of the host. -/
theorem integration_of_samples (hs : s.Reachable) {e : Error} (h : s.samples = .error e) :
    e.Integration := by
  obtain ⟨exports, hhosts⟩ := hs.hosts
  unfold samples at h
  split_ifs at h with hrun hf
  · cases h
    exact .faulted
  · cases hask : s.vm.entry.audioSamples with
    | none =>
      rw [hask] at h
      cases h
    | some ask =>
      have hown := Guest.caller_of_query? rfl (hhosts.resolves.audioSamples.symm.trans hask)
      rw [hask, Option.elim_some, played] at h
      split at h
      · next hstop =>
        cases h
        exact Routine.integration_of_run hhosts.exported hown hstop _
      · split_ifs at h
        cases h
        exact .outOfRange _ _ _

/-- Every pull is answered once, unless it fails, with what the guest plays. It makes no difference
which chunk has been lent. -/
theorem pull_answered (hs : s.Reachable) :
    (∀ c, s.samples = .ok c → c.left.size = s.chunkFrames ∧ c.right.size = s.chunkFrames) ∧
      (∀ e, s.samples = .error e → e.Integration) ∧
      ∀ live, ∃ o, (∀ chunk, dispatch (.audioPull chunk live) s = o) ∧
        o.result = s.samples.map (fun _ => .default) ∧
        replies o.trace = if live then s.samples.toOption.toList else [] := by
  refine ⟨fun c => size_of_samples, fun e => integration_of_samples hs, fun live => ?_⟩
  obtain ⟨vm, t, ht, hpull⟩ := brings_samples s
  cases hr : s.samples with
  | error e =>
    refine ⟨⟨.error e, { s with vm }, t⟩, fun chunk => ?_, rfl, ?_⟩
    · obtain ⟨c, hc, -⟩ := hpull chunk
      rw [hr] at hc
      exact dispatch_of_fatal (answerPull_of_error live hc)
        (Error.Grave.isFatal (.inl (integration_of_samples hs hr)))
    · rw [ht]
      cases live <;> rfl
  | ok c =>
    refine ⟨⟨.ok .default, { s with vm }, t ++ [if live then .reply c else .note .replyDropped]⟩,
      fun chunk => ?_, rfl, ?_⟩
    · obtain ⟨c', hc, hfilled⟩ := hpull chunk
      rw [hr] at hc
      cases hfilled c hr
      exact dispatch_of_ok (answerPull_of_ok live hc)
    · rw [replies_append, ht]
      cases live <;> rfl

end Session

namespace Session

/-- Its guest plays the same stretch of memory over and over. -/
def playing : Session :=
  bare [Entry.getAudioSamples.answering 256]

theorem playing_created : playing.Created :=
  bare_created _

/-- Once it is booted the guest is heard, and nothing of what the chunk held before. -/
theorem pull_answered_playing : ∃ memory : Memory, ∃ o,
    dispatch (.audioPull ⟨#[1, 2, 3], #[4]⟩ true) (boot playing).state = o ∧
      o.result = .ok .default ∧
      replies o.trace = [.planarAt memory.bytes (256 : UInt32).toNat playing.chunkFrames] := by
  obtain ⟨memory, t, hsize, hb⟩ : ∃ memory t, _ ∧ boot playing = _ := boot_bare _ rfl
  let s : Session := { playing.withMemory memory with lifecycle := .running }
  have hstate : (boot playing).state = s := congrArg Outcome.state hb
  have hfits : (256 : UInt32).toNat + 8 * playing.chunkFrames ≤ memory.size := by
    rw [hsize]
    decide
  have hsamples : s.samples =
      .ok (.planarAt memory.bytes (256 : UInt32).toNat playing.chunkFrames) := by
    have hplayed : s.samples = s.played (.own (.ret 256)) := rfl
    have hrun : (Routine.own (.ret (256 : UInt32))).run s.vm.machine =
      ⟨.ok 256, s.vm.machine, []⟩ := rfl
    have hconfig : s.config = playing.config := rfl
    have hframes : s.chunkFrames = playing.chunkFrames := by
      rw [chunkFrames, hconfig, chunkFrames]
    rw [hplayed, played, hrun, hframes]
    exact if_pos hfits
  obtain ⟨-, -, hpull⟩ := pull_answered (playing_created.reachable_act .boot)
  obtain ⟨o, hany, hresult, hreplies⟩ := hpull true
  have hboot : (Operation.act .boot playing).state = s := hstate
  rw [hboot] at hany
  rw [hboot, hsamples] at hresult hreplies
  rw [hstate]
  exact ⟨memory, o, hany _, hresult, hreplies⟩

end Session

end GuestHost
