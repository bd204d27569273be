import RateGovernor.Model.Synthetic

namespace RateGovernor.Safety.EpochFencing

open Model.CheckedMath Model.Identity Model.Reason Model.Calls Model.Synthetic
open Foundation.KeyedTable

theorem incarnationOk_eq_none {requestEpoch highest : FabricEpoch}
    {requestBoot admittedBoot : WorkerBootId} :
    incarnationOk requestEpoch highest requestBoot admittedBoot = none ↔
      requestEpoch = highest ∧ requestBoot = admittedBoot := by
  unfold incarnationOk
  constructor
  · intro h
    split at h
    · cases h
    · split at h
      · cases h
      · split at h
        · cases h
        · next hlow hhigh hboot =>
          have hvalue : requestEpoch.value = highest.value :=
            UInt64.le_antisymm (UInt64.not_lt.1 hhigh) (UInt64.not_lt.1 hlow)
          exact ⟨StrongId.eq_of_value hvalue, not_not.1 hboot⟩
  · rintro ⟨rfl, rfl⟩
    simp only [UInt64.lt_irrefl, ne_eq, not_true_eq_false, if_false]

/-- A request changes neither the device's configuration nor who is admitted to it. -/
structure SameSession (device next : SyntheticDevice) : Prop where
  config : next.config = device.config
  boot : next.boot = device.boot
  highestEpoch : next.highestEpoch = device.highestEpoch
  admittedBoot : next.admittedBoot = device.admittedBoot

structure Admissible (device : SyntheticDevice) (request : ApplyRequest) : Prop where
  stamp : request.epoch = device.highestEpoch
  sender : request.boot = device.admittedBoot
  rate : device.config.maxRateUps ≠ 0 → request.rateUps ≤ device.config.maxRateUps
  burst : device.config.maxBurstTokens ≠ 0 → request.burstTokens ≤ device.config.maxBurstTokens
  room : device.table.find request.envelope.value = none →
    device.table.size < device.config.envelopeLimit.toNat

theorem apply_cases (device : SyntheticDevice) (request : ApplyRequest) :
    SameSession device (device.apply request).2 ∧
      ((device.apply request).1.status ≠ .completed ∧
          (device.apply request).2.table = device.table ∨
        (device.apply request).1.status = .completed ∧ Admissible device request ∧
          (device.apply request).2.table = device.table.put (device.appliedEntry request)) := by
  unfold SyntheticDevice.apply
  dsimp only
  cases hok : incarnationOk request.epoch device.highestEpoch request.boot device.admittedBoot with
  | some reason => exact ⟨⟨rfl, rfl, rfl, rfl⟩, .inl ⟨(nomatch ·), rfl⟩⟩
  | none =>
    obtain ⟨hstamp, hsender⟩ := incarnationOk_eq_none.1 hok
    dsimp only
    split
    · exact ⟨⟨rfl, rfl, rfl, rfl⟩, .inl ⟨(nomatch ·), rfl⟩⟩
    split
    · exact ⟨⟨rfl, rfl, rfl, rfl⟩, .inl ⟨(nomatch ·), rfl⟩⟩
    split
    · exact ⟨⟨rfl, rfl, rfl, rfl⟩, .inl ⟨(nomatch ·), rfl⟩⟩
    split
    · exact ⟨⟨rfl, rfl, rfl, rfl⟩, .inl ⟨(nomatch ·), rfl⟩⟩
    split
    · exact ⟨⟨rfl, rfl, rfl, rfl⟩, .inl ⟨(nomatch ·), rfl⟩⟩
    split
    · exact ⟨⟨rfl, rfl, rfl, rfl⟩, .inl ⟨(nomatch ·), rfl⟩⟩
    · next hrate hburst hroom =>
      refine ⟨⟨rfl, rfl, rfl, rfl⟩, .inr ⟨rfl, ⟨hstamp, hsender, ?_, ?_, ?_⟩, rfl⟩⟩
      · intro hdeclared
        exact UInt64.not_lt.1 fun hlt ↦ hrate ⟨hdeclared, hlt⟩
      · intro hdeclared
        exact UInt64.not_lt.1 fun hlt ↦ hburst ⟨hdeclared, hlt⟩
      · intro hnone
        refine Nat.lt_of_not_le fun hfull ↦ hroom ⟨?_, hfull⟩
        rw [hnone]
        rfl

theorem revoke_cases (device : SyntheticDevice) (request : RevokeRequest) :
    SameSession device (device.revoke request).2 ∧
      ((device.revoke request).1.status ≠ .completed ∧
          (device.revoke request).2.table = device.table ∨
        (device.revoke request).1.status = .completed ∧
          request.epoch = device.highestEpoch ∧ request.boot = device.admittedBoot ∧
          (device.revoke request).2.table = device.table.remove request.envelope.value) := by
  unfold SyntheticDevice.revoke
  cases hok : incarnationOk request.epoch device.highestEpoch request.boot device.admittedBoot with
  | some reason => exact ⟨⟨rfl, rfl, rfl, rfl⟩, .inl ⟨(nomatch ·), rfl⟩⟩
  | none =>
    obtain ⟨hstamp, hsender⟩ := incarnationOk_eq_none.1 hok
    exact ⟨⟨rfl, rfl, rfl, rfl⟩, .inr ⟨rfl, hstamp, hsender, rfl⟩⟩

theorem reportEntry_cases (device : SyntheticDevice) (entry : SyntheticEntry) :
    SameSession device (device.reportEntry entry).2 ∧
      (device.reportEntry entry).2.table = device.table := by
  unfold SyntheticDevice.reportEntry
  dsimp only
  split
  · exact ⟨⟨rfl, rfl, rfl, rfl⟩, rfl⟩
  split <;> exact ⟨⟨rfl, rfl, rfl, rfl⟩, rfl⟩

theorem readBack_cases (device : SyntheticDevice) (request : ApplyRequest) :
    SameSession device (device.readBack request).2 ∧
      (device.readBack request).2.table = device.table ∧
      ((device.readBack request).1.status = .confirmed →
        request.epoch = device.highestEpoch ∧ request.boot = device.admittedBoot) := by
  unfold SyntheticDevice.readBack
  dsimp only
  cases hok : incarnationOk request.epoch device.highestEpoch request.boot device.admittedBoot with
  | some reason => exact ⟨⟨rfl, rfl, rfl, rfl⟩, rfl, (nomatch ·)⟩
  | none =>
    have hadmitted := incarnationOk_eq_none.1 hok
    dsimp only
    split
    · exact ⟨⟨rfl, rfl, rfl, rfl⟩, rfl, fun _ ↦ hadmitted⟩
    · split
      · exact ⟨⟨rfl, rfl, rfl, rfl⟩, rfl, fun _ ↦ hadmitted⟩
      · split
        · exact ⟨⟨rfl, rfl, rfl, rfl⟩, rfl, fun _ ↦ hadmitted⟩
        · obtain ⟨hsame, htable⟩ := reportEntry_cases _ _
          exact ⟨⟨hsame.config, hsame.boot, hsame.highestEpoch, hsame.admittedBoot⟩, htable,
            fun _ ↦ hadmitted⟩

theorem admitIncarnation_cases (device : SyntheticDevice) (epoch : FabricEpoch)
    (boot : WorkerBootId) :
    (device.admitIncarnation epoch boot).2.config = device.config ∧
      (((device.admitIncarnation epoch boot).1 ≠ none ∧
          SameSession device (device.admitIncarnation epoch boot).2 ∧
          (device.admitIncarnation epoch boot).2.table = device.table) ∨
        ((device.admitIncarnation epoch boot).1 = none ∧
          (device.admitIncarnation epoch boot).2.highestEpoch = epoch ∧
          (device.admitIncarnation epoch boot).2.admittedBoot = boot ∧
          (epoch = device.highestEpoch ∧ (device.admittedBoot.valid → boot = device.admittedBoot) ∧
              (device.admitIncarnation epoch boot).2.table = device.table ∨
            device.highestEpoch.value < epoch.value ∧
              (device.admitIncarnation epoch boot).2.table = .empty))) := by
  unfold SyntheticDevice.admitIncarnation
  split
  · exact ⟨rfl, .inl ⟨(nomatch ·), ⟨rfl, rfl, rfl, rfl⟩, rfl⟩⟩
  · next hlow =>
    split
    · next hsame =>
      split
      · exact ⟨rfl, .inl ⟨(nomatch ·), ⟨rfl, rfl, rfl, rfl⟩, rfl⟩⟩
      · next hfree =>
        refine ⟨rfl, .inr ⟨rfl, hsame.symm, rfl, .inl ⟨hsame, ?_, rfl⟩⟩⟩
        intro hvalid
        by_contra hne
        exact hfree (by simp only [hvalid, hne, ne_eq, not_false_eq_true, decide_true, Bool.and_true])
    · next hdiffer =>
      refine ⟨rfl, .inr ⟨rfl, rfl, rfl, .inr ⟨?_, rfl⟩⟩⟩
      have hne : epoch.value ≠ device.highestEpoch.value :=
        fun hvalue ↦ hdiffer (StrongId.eq_of_value hvalue)
      exact UInt64.lt_of_le_of_ne (UInt64.not_lt.1 hlow) hne.symm

/-- What holds of the device's table whoever has called it: it fits, and what it holds was applied
in the current epoch within the declared limits. -/
structure Fenced (device : SyntheticDevice) : Prop where
  limited : 0 < device.config.envelopeLimit.toNat
  current : ∀ entry ∈ device.table.entries, entry.epoch = device.highestEpoch
  room : device.table.size ≤ device.config.envelopeLimit.toNat
  rate : ∀ entry ∈ device.table.entries,
    device.config.maxRateUps ≠ 0 → entry.rateUps ≤ device.config.maxRateUps
  burst : ∀ entry ∈ device.table.entries,
    device.config.maxBurstTokens ≠ 0 → entry.burstTokens ≤ device.config.maxBurstTokens

section Tables

variable {device next : SyntheticDevice}

theorem Fenced.of_subset (h : Fenced device) (hconfig : next.config = device.config)
    (hepoch : next.highestEpoch = device.highestEpoch)
    (hsubset : ∀ entry ∈ next.table.entries, entry ∈ device.table.entries)
    (hsize : next.table.size ≤ device.table.size) : Fenced next where
  limited := by
    rw [hconfig]
    exact h.limited
  current entry hentry := by
    rw [hepoch]
    exact h.current entry (hsubset entry hentry)
  room := by
    rw [hconfig]
    exact hsize.trans h.room
  rate entry hentry := by
    rw [hconfig]
    exact h.rate entry (hsubset entry hentry)
  burst entry hentry := by
    rw [hconfig]
    exact h.burst entry (hsubset entry hentry)

theorem Fenced.of_table (h : Fenced device) (hconfig : next.config = device.config)
    (hepoch : next.highestEpoch = device.highestEpoch) (htable : next.table = device.table) :
    Fenced next := by
  refine h.of_subset hconfig hepoch ?_ ?_
  · intro entry hentry
    rwa [htable] at hentry
  · rw [htable]

theorem Fenced.of_empty (hlimited : 0 < device.config.envelopeLimit.toNat)
    (htable : device.table = .empty) : Fenced device := by
  have hentries : ∀ entry, entry ∉ device.table.entries := by
    intro entry hentry
    rw [htable, Registry.mem_entries, Registry.find_empty] at hentry
    cases hentry
  refine ⟨hlimited, fun entry hentry ↦ absurd hentry (hentries entry), ?_,
    fun entry hentry ↦ absurd hentry (hentries entry),
    fun entry hentry ↦ absurd hentry (hentries entry)⟩
  rw [htable]
  exact Nat.zero_le _

theorem Fenced.of_put {request : ApplyRequest} (h : Fenced device)
    (hsame : SameSession device next) (hadmissible : Admissible device request)
    (htable : next.table = device.table.put (device.appliedEntry request)) : Fenced next := by
  have hentries : ∀ entry ∈ next.table.entries,
      entry = device.appliedEntry request ∨ entry ∈ device.table.entries := by
    intro entry hentry
    rw [htable, Registry.mem_entries, Registry.find_put] at hentry
    split at hentry
    · exact .inl (Option.some.inj hentry).symm
    · exact .inr (Registry.mem_entries.2 hentry)
  refine ⟨?_, ?_, ?_, ?_, ?_⟩
  · rw [hsame.config]
    exact h.limited
  · intro entry hentry
    rw [hsame.highestEpoch]
    obtain rfl | hold := hentries entry hentry
    · rfl
    · exact h.current entry hold
  · rw [hsame.config, htable]
    cases hfind : device.table.find request.envelope.value with
    | none =>
      have hroom := hadmissible.room hfind
      have hsize := Registry.size_put_of_find_none (v := device.appliedEntry request) hfind
      omega
    | some entry =>
      rw [Registry.size_put_of_find (v := device.appliedEntry request) hfind]
      exact h.room
  · intro entry hentry
    rw [hsame.config]
    obtain rfl | hold := hentries entry hentry
    · exact hadmissible.rate
    · exact h.rate entry hold
  · intro entry hentry
    rw [hsame.config]
    obtain rfl | hold := hentries entry hentry
    · exact hadmissible.burst
    · exact h.burst entry hold

theorem Fenced.of_remove {key : U64} (h : Fenced device) (hsame : SameSession device next)
    (htable : next.table = device.table.remove key) : Fenced next := by
  refine h.of_subset hsame.config hsame.highestEpoch ?_ ?_
  · intro entry hentry
    rw [htable, Registry.mem_entries, Registry.find_remove] at hentry
    split at hentry
    · cases hentry
    · exact Registry.mem_entries.2 hentry
  · rw [htable]
    exact Std.ExtTreeMap.size_erase_le

end Tables

/-- One call keeps the invariant and the configuration, and never lowers the epoch. -/
theorem after_fenced {device : SyntheticDevice} (h : Fenced device) (call : DeviceCall) :
    Fenced (device.after call) ∧ (device.after call).config = device.config ∧
      device.highestEpoch.value ≤ (device.after call).highestEpoch.value := by
  have kept {next : SyntheticDevice} (hsame : SameSession device next) :
      next.config = device.config ∧ device.highestEpoch.value ≤ next.highestEpoch.value := by
    rw [hsame.highestEpoch]
    exact ⟨hsame.config, UInt64.le_refl _⟩
  cases call with
  | admitIncarnation epoch boot =>
    obtain ⟨hconfig, ⟨-, hsame, htable⟩ | ⟨-, hepoch, -, hadmitted⟩⟩ :=
      admitIncarnation_cases device epoch boot
    · exact ⟨h.of_table hsame.config hsame.highestEpoch htable, kept hsame⟩
    · obtain ⟨hcurrent, -, htable⟩ | ⟨hnewer, htable⟩ := hadmitted
      · have hkept := hepoch.trans hcurrent
        refine ⟨h.of_table hconfig hkept htable, hconfig, ?_⟩
        show device.highestEpoch.value ≤ (device.admitIncarnation epoch boot).2.highestEpoch.value
        rw [hkept]
        exact UInt64.le_refl _
      · refine ⟨.of_empty ?_ htable, hconfig, ?_⟩
        · show 0 < (device.admitIncarnation epoch boot).2.config.envelopeLimit.toNat
          rw [hconfig]
          exact h.limited
        · show device.highestEpoch.value ≤ (device.admitIncarnation epoch boot).2.highestEpoch.value
          rw [hepoch]
          exact UInt64.le_of_lt hnewer
  | apply request =>
    obtain ⟨hsame, ⟨-, htable⟩ | ⟨-, hadmissible, htable⟩⟩ := apply_cases device request
    · exact ⟨h.of_table hsame.config hsame.highestEpoch htable, kept hsame⟩
    · exact ⟨h.of_put hsame hadmissible htable, kept hsame⟩
  | revoke request =>
    obtain ⟨hsame, ⟨-, htable⟩ | ⟨-, -, -, htable⟩⟩ := revoke_cases device request
    · exact ⟨h.of_table hsame.config hsame.highestEpoch htable, kept hsame⟩
    · exact ⟨h.of_remove hsame htable, kept hsame⟩
  | readBack request =>
    obtain ⟨hsame, htable, -⟩ := readBack_cases device request
    exact ⟨h.of_table hsame.config hsame.highestEpoch htable, kept hsame⟩

theorem afterAll_fenced {device : SyntheticDevice} (h : Fenced device) (calls : List DeviceCall) :
    Fenced (device.afterAll calls) ∧ (device.afterAll calls).config = device.config ∧
      device.highestEpoch.value ≤ (device.afterAll calls).highestEpoch.value := by
  induction calls generalizing device with
  | nil => exact ⟨h, rfl, UInt64.le_refl _⟩
  | cons call calls ih =>
    obtain ⟨hcall, hconfig, hle⟩ := after_fenced h call
    obtain ⟨hcalls, hconfig', hle'⟩ := ih hcall
    exact ⟨hcalls, hconfig'.trans hconfig, UInt64.le_trans hle hle'⟩

theorem newDevice_fenced (config : SyntheticDeviceConfig) (boot : WorkerBootId)
    (epoch : FabricEpoch) (admittedBoot : WorkerBootId) :
    Fenced (newDevice config boot epoch admittedBoot) := by
  refine .of_empty ?_ rfl
  show 0 < (if config.envelopeLimit = 0 then _ else config).envelopeLimit.toNat
  split
  · exact Nat.zero_lt_one
  · next hlimit =>
    exact Nat.pos_of_ne_zero fun hzero ↦ hlimit (UInt64.toNat_inj.1 hzero)

theorem newDevice_limits (config : SyntheticDeviceConfig) (boot : WorkerBootId)
    (epoch : FabricEpoch) (admittedBoot : WorkerBootId) :
    (newDevice config boot epoch admittedBoot).config.maxRateUps = config.maxRateUps ∧
      (newDevice config boot epoch admittedBoot).config.maxBurstTokens = config.maxBurstTokens ∧
      (newDevice config boot epoch admittedBoot).config.envelopeLimit.toNat =
        max 1 config.envelopeLimit.toNat := by
  by_cases hlimit : config.envelopeLimit = 0
  · simp only [newDevice, hlimit, if_true]
    exact ⟨trivial, trivial, rfl⟩
  · simp only [newDevice, hlimit, if_false]
    have hpos : config.envelopeLimit.toNat ≠ 0 := fun hzero ↦ hlimit (UInt64.toNat_inj.1 hzero)
    exact ⟨trivial, trivial, by omega⟩

theorem refused_of_stamp {device : SyntheticDevice} {call : DeviceCall} {stamp : FabricEpoch}
    (hstamp : call.stamp = some stamp) (hother : stamp ≠ device.highestEpoch) :
    device.accepts call = false ∧ (device.after call).table = device.table := by
  cases call with
  | admitIncarnation epoch boot => cases hstamp
  | apply request =>
    cases hstamp
    obtain ⟨-, ⟨hstatus, htable⟩ | ⟨-, hadmissible, -⟩⟩ := apply_cases device request
    · exact ⟨decide_eq_false hstatus, htable⟩
    · exact absurd hadmissible.stamp hother
  | revoke request =>
    cases hstamp
    obtain ⟨-, ⟨hstatus, htable⟩ | ⟨-, hepoch, -, -⟩⟩ := revoke_cases device request
    · exact ⟨decide_eq_false hstatus, htable⟩
    · exact absurd hepoch hother
  | readBack request =>
    cases hstamp
    obtain ⟨-, htable, hconfirmed⟩ := readBack_cases device request
    exact ⟨decide_eq_false fun hstatus ↦ hother (hconfirmed hstatus).1, htable⟩

/-- Whatever coordinators have called a device that started empty, its epoch never goes back, its
table fits and holds only what the current epoch applied within the declared limits, a refused
apply or revoke changes nothing, and neither does a request of any other epoch. -/
theorem epoch_fenced (config : SyntheticDeviceConfig) (boot : WorkerBootId) (epoch : FabricEpoch)
    (admittedBoot : WorkerBootId) (calls more : List DeviceCall) :
    let device := (newDevice config boot epoch admittedBoot).afterAll calls
    device.highestEpoch.value ≤ (device.afterAll more).highestEpoch.value ∧
      (∀ entry ∈ device.table.entries, entry.epoch = device.highestEpoch) ∧
      device.table.size ≤ max 1 config.envelopeLimit.toNat ∧
      (∀ entry ∈ device.table.entries,
        (config.maxRateUps ≠ 0 → entry.rateUps ≤ config.maxRateUps) ∧
          (config.maxBurstTokens ≠ 0 → entry.burstTokens ≤ config.maxBurstTokens)) ∧
      (∀ request, (device.apply request).1.status ≠ .completed →
        (device.apply request).2.table = device.table) ∧
      (∀ request, (device.revoke request).1.status ≠ .completed →
        (device.revoke request).2.table = device.table) ∧
      ∀ call stamp, DeviceCall.stamp call = some stamp → stamp ≠ device.highestEpoch →
        device.accepts call = false ∧ (device.after call).table = device.table := by
  intro device
  have hreached := afterAll_fenced (newDevice_fenced config boot epoch admittedBoot) calls
  obtain ⟨hfenced, hconfig, -⟩ : Fenced device ∧ device.config = _ ∧ _ := hreached
  obtain ⟨hrate, hburst, hlimit⟩ := newDevice_limits config boot epoch admittedBoot
  refine ⟨(afterAll_fenced hfenced more).2.2, hfenced.current, ?_, ?_, ?_, ?_, ?_⟩
  · rw [← hlimit, ← hconfig]
    exact hfenced.room
  · intro entry hentry
    rw [← hrate, ← hburst, ← hconfig]
    exact ⟨hfenced.rate entry hentry, hfenced.burst entry hentry⟩
  · intro request hstatus
    obtain ⟨-, ⟨-, htable⟩ | ⟨hcompleted, -⟩⟩ := apply_cases device request
    · exact htable
    · exact absurd hcompleted hstatus
  · intro request hstatus
    obtain ⟨-, ⟨-, htable⟩ | ⟨hcompleted, -⟩⟩ := revoke_cases device request
    · exact htable
    · exact absurd hcompleted hstatus
  · intro call stamp hstamp hother
    exact refused_of_stamp hstamp hother

/-- A coordinator of an earlier epoch is turned away once another one is admitted. -/
theorem epoch_fenced_of_takeover :
    let device := (newDevice {} ⟨9⟩ ⟨0⟩ {}).afterAll
      [.admitIncarnation ⟨1⟩ ⟨7⟩, .apply { envelope := ⟨1⟩, epoch := ⟨1⟩, boot := ⟨7⟩ },
        .admitIncarnation ⟨2⟩ ⟨8⟩]
    let late : DeviceCall := .apply { envelope := ⟨1⟩, epoch := ⟨1⟩, boot := ⟨7⟩ }
    device.accepts late = false ∧ (device.after late).table = device.table := by
  obtain ⟨-, -, -, -, -, -, hfenced⟩ := epoch_fenced {} ⟨9⟩ ⟨0⟩ {}
    [.admitIncarnation ⟨1⟩ ⟨7⟩, .apply { envelope := ⟨1⟩, epoch := ⟨1⟩, boot := ⟨7⟩ },
      .admitIncarnation ⟨2⟩ ⟨8⟩] []
  exact hfenced _ ⟨1⟩ rfl (by decide)

end RateGovernor.Safety.EpochFencing
