import RateGovernor.Foundation.GuardedRun
import RateGovernor.Model.Worker
import RateGovernor.Safety.EpochFencing

namespace RateGovernor.Safety.SoleIncarnation

open Model.CheckedMath Model.Identity Model.Reason Model.Calls Model.Synthetic Model.Wire
open Model.Worker Foundation.GuardedRun EpochFencing

def calledBy (frame : Frame) : Option DeviceCall :=
  match frame.type with
  | .hello => (decodeMessage decodeHello frame.payload).map fun hello ↦
      .admitIncarnation hello.epoch hello.boot
  | .applyRequest => (decodeMessage decodeApplyRequest frame.payload).map fun request ↦
      .apply (WorkerSession.internalApply request)
  | .revokeRequest => (decodeMessage decodeRevokeRequest frame.payload).map fun request ↦
      .revoke (WorkerSession.internalRevoke request)
  | .verifyRequest => (decodeMessage decodeVerifyRequest frame.payload).map fun request ↦
      .readBack (WorkerSession.internalVerify request)
  | _ => none

theorem handleFrame_device (session : WorkerSession) (device : SyntheticDevice) (frame : Frame) :
    (session.handleFrame device frame).device = (calledBy frame).elim device device.after := by
  obtain ⟨type, flags, payload⟩ := frame
  unfold WorkerSession.handleFrame calledBy
  cases type with
  | hello =>
    cases decodeMessage decodeHello payload with
    | none => rfl
    | some hello =>
      simp only [WorkerSession.handleHello]
      split
      · next hadmit => exact (congrArg Prod.snd hadmit).symm
      · next hadmit => exact (congrArg Prod.snd hadmit).symm
  | applyRequest => cases decodeMessage decodeApplyRequest payload <;> rfl
  | revokeRequest => cases decodeMessage decodeRevokeRequest payload <;> rfl
  | verifyRequest => cases decodeMessage decodeVerifyRequest payload <;> rfl
  | _ => rfl

/-- A request the device carried out: the epoch it was in, who sent the request, and whether a
handshake had been admitted by then. -/
structure Acceptance where
  epoch : FabricEpoch
  boot : WorkerBootId
  heralded : Bool
  deriving DecidableEq

/-- The device of a worker with what it has admitted and accepted so far. -/
structure Watched where
  device : SyntheticDevice
  heralded : Bool := false
  accepted : List Acceptance := []

def admits (device : SyntheticDevice) : DeviceCall → Bool
  | .admitIncarnation epoch boot => (device.admitIncarnation epoch boot).1.isNone
  | _ => false

def acceptance (watched : Watched) (call : DeviceCall) : List Acceptance :=
  if watched.device.accepts call then
    call.sender.toList.map fun boot ↦ ⟨watched.device.highestEpoch, boot, watched.heralded⟩
  else []

def Watched.after (watched : Watched) (call : DeviceCall) : Watched where
  device := watched.device.after call
  heralded := watched.heralded || admits watched.device call
  accepted := acceptance watched call ++ watched.accepted

/-- Some session of the worker handles a frame. All of them share the device. -/
def watchedStep (watched : Watched) (served : WorkerSession × Frame) : Option Watched :=
  match calledBy served.2 with
  | none => some { watched with device := (served.1.handleFrame watched.device served.2).device }
  | some call =>
    some { watched.after call with
      device := (served.1.handleFrame watched.device served.2).device }

/-- A worker that has served nobody yet. -/
def freshWorker (config : WorkerSessionConfig) : Watched := { device := config.newDevice }

/-- A request of the current epoch that carries the unset boot id, while no boot id is admitted. -/
def anonymous (device : SyntheticDevice) : DeviceCall → Bool
  | .admitIncarnation .. => false
  | call => call.stamp = some device.highestEpoch && call.sender = some {} && !device.admittedBoot.valid

def identified (watched : Watched) (served : WorkerSession × Frame) : Prop :=
  (calledBy served.2).any (anonymous watched.device) = false

instance (watched : Watched) (served : WorkerSession × Frame) :
    Decidable (identified watched served) :=
  inferInstanceAs (Decidable (_ = false))

/-- Every acceptance was heralded and identified, none is of a later epoch, and those of the
current epoch came from the admitted incarnation. -/
structure Attributed (watched : Watched) : Prop where
  heralded : watched.device.admittedBoot.valid = true → watched.heralded = true
  accepted : ∀ entry ∈ watched.accepted, entry.heralded = true ∧ entry.boot.valid = true ∧
    entry.epoch.value ≤ watched.device.highestEpoch.value ∧
    (entry.epoch = watched.device.highestEpoch → entry.boot = watched.device.admittedBoot)
  alike : ∀ entry ∈ watched.accepted, ∀ other ∈ watched.accepted, entry.epoch = other.epoch →
    entry.boot = other.boot

section Steps

variable {watched : Watched} {call : DeviceCall}

theorem accepts_admitted {device : SyntheticDevice} (h : device.accepts call = true) :
    call.stamp = some device.highestEpoch ∧ call.sender = some device.admittedBoot ∧
      SameSession device (device.after call) := by
  cases call with
  | admitIncarnation epoch boot => cases h
  | apply request =>
    obtain ⟨hsame, ⟨hstatus, -⟩ | ⟨-, hadmissible, -⟩⟩ := apply_cases device request
    · exact absurd (of_decide_eq_true h) hstatus
    · exact ⟨congrArg some hadmissible.stamp, congrArg some hadmissible.sender, hsame⟩
  | revoke request =>
    obtain ⟨hsame, ⟨hstatus, -⟩ | ⟨-, hepoch, hboot, -⟩⟩ := revoke_cases device request
    · exact absurd (of_decide_eq_true h) hstatus
    · exact ⟨congrArg some hepoch, congrArg some hboot, hsame⟩
  | readBack request =>
    obtain ⟨hsame, -, hconfirmed⟩ := readBack_cases device request
    obtain ⟨hepoch, hboot⟩ := hconfirmed (of_decide_eq_true h)
    exact ⟨congrArg some hepoch, congrArg some hboot, hsame⟩

theorem anonymous_of_accepts {device : SyntheticDevice} (h : device.accepts call = true) :
    anonymous device call = (call.stamp = some device.highestEpoch && call.sender = some {} &&
      !device.admittedBoot.valid) := by
  cases call with
  | admitIncarnation epoch boot => cases h
  | _ => rfl

theorem Attributed.of_sameSession {next : Watched} (h : Attributed watched)
    (hsame : SameSession watched.device next.device) (hheralded : next.heralded = watched.heralded)
    (haccepted : next.accepted = watched.accepted) : Attributed next := by
  refine ⟨?_, ?_, ?_⟩
  · rw [hsame.admittedBoot, hheralded]
    exact h.heralded
  · rw [haccepted, hsame.highestEpoch, hsame.admittedBoot]
    exact h.accepted
  · rw [haccepted]
    exact h.alike

theorem Attributed.of_accepted (h : Attributed watched) (haccepts : watched.device.accepts call = true)
    (hidentified : anonymous watched.device call = false) : Attributed (watched.after call) := by
  obtain ⟨hstamp, hsender, hsame⟩ := accepts_admitted haccepts
  have hvalid : watched.device.admittedBoot.valid = true := by
    by_contra hinvalid
    have hunset : watched.device.admittedBoot = {} := by
      apply StrongId.eq_of_value
      by_contra hvalue
      exact hinvalid (decide_eq_true hvalue)
    rw [anonymous_of_accepts haccepts, hstamp, hsender, hunset, decide_eq_true rfl,
      decide_eq_true rfl] at hidentified
    cases hidentified
  have hentry : (watched.after call).accepted =
      ⟨watched.device.highestEpoch, watched.device.admittedBoot, watched.heralded⟩ ::
        watched.accepted := by
    simp only [Watched.after, acceptance, haccepts, if_true, hsender, Option.toList_some,
      List.map_cons, List.map_nil, List.cons_append, List.nil_append]
  have hheralded : (watched.after call).heralded = true := by
    simp only [Watched.after, h.heralded hvalid, Bool.true_or]
  refine ⟨fun _ ↦ hheralded, ?_, ?_⟩
  · rw [hentry]
    have hepoch : (watched.after call).device.highestEpoch = watched.device.highestEpoch :=
      hsame.highestEpoch
    have hboot : (watched.after call).device.admittedBoot = watched.device.admittedBoot :=
      hsame.admittedBoot
    rw [hepoch, hboot]
    intro entry hmem
    obtain rfl | hold := List.mem_cons.1 hmem
    · exact ⟨h.heralded hvalid, hvalid, UInt64.le_refl _, fun _ ↦ rfl⟩
    · exact h.accepted entry hold
  · rw [hentry]
    intro entry hmem other hmem' hepoch
    obtain rfl | hold := List.mem_cons.1 hmem
    · obtain rfl | hold' := List.mem_cons.1 hmem'
      · rfl
      · exact ((h.accepted other hold').2.2.2 hepoch.symm).symm
    · obtain rfl | hold' := List.mem_cons.1 hmem'
      · exact (h.accepted entry hold).2.2.2 hepoch
      · exact h.alike entry hold other hold' hepoch

theorem Attributed.of_handshake {epoch : FabricEpoch} {boot : WorkerBootId} (h : Attributed watched) :
    Attributed (watched.after (.admitIncarnation epoch boot)) := by
  have haccepted : (watched.after (.admitIncarnation epoch boot)).accepted = watched.accepted := rfl
  obtain ⟨-, ⟨hrefused, hsame, -⟩ | ⟨hadmitted, hepoch, hboot, hturn⟩⟩ :=
    admitIncarnation_cases watched.device epoch boot
  · refine h.of_sameSession hsame ?_ haccepted
    cases hanswer : (watched.device.admitIncarnation epoch boot).1 with
    | none => exact absurd hanswer hrefused
    | some reason =>
      simp only [Watched.after, admits, hanswer, Option.isNone_some, Bool.or_false]
  · refine ⟨?_, ?_, ?_⟩
    · intro _
      simp only [Watched.after, admits, hadmitted, Option.isNone_none, Bool.or_true]
    · intro entry hentry
      obtain ⟨hheralded, hvalid, hle, hcurrent⟩ := h.accepted entry hentry
      refine ⟨hheralded, hvalid, ?_, ?_⟩
      · show entry.epoch.value ≤ (watched.device.admitIncarnation epoch boot).2.highestEpoch.value
        rw [hepoch]
        obtain ⟨hsame, -⟩ | ⟨hnewer, -⟩ := hturn
        · rw [hsame]
          exact hle
        · exact UInt64.le_trans hle (UInt64.le_of_lt hnewer)
      · intro heq
        have heq : entry.epoch = (watched.device.admitIncarnation epoch boot).2.highestEpoch := heq
        show entry.boot = (watched.device.admitIncarnation epoch boot).2.admittedBoot
        rw [hepoch] at heq
        rw [hboot]
        obtain ⟨hsame, hfree, -⟩ | ⟨hnewer, -⟩ := hturn
        · have hsender := hcurrent (heq.trans hsame)
          rw [hsender] at hvalid
          exact hsender.trans (hfree hvalid).symm
        · rw [heq] at hle
          exact absurd hnewer (UInt64.not_lt.2 hle)
    · rw [haccepted]
      exact h.alike

end Steps

theorem freshWorker_attributed (config : WorkerSessionConfig) : Attributed (freshWorker config) := by
  refine ⟨?_, ?_, ?_⟩
  · intro hvalid
    cases hvalid
  · intro entry hentry
    cases hentry
  · intro entry hentry
    cases hentry

theorem watchedStep_attributed {watched next : Watched} {served : WorkerSession × Frame}
    (h : Attributed watched) (hidentified : identified watched served)
    (hstep : watchedStep watched served = some next) : Attributed next := by
  have hdevice := handleFrame_device served.1 watched.device served.2
  unfold watchedStep at hstep
  unfold identified at hidentified
  cases hcall : calledBy served.2 with
  | none =>
    rw [hcall] at hstep hdevice
    cases hstep
    refine h.of_sameSession ?_ rfl rfl
    show SameSession watched.device (served.1.handleFrame watched.device served.2).device
    rw [hdevice]
    exact ⟨rfl, rfl, rfl, rfl⟩
  | some call =>
    rw [hcall] at hstep hdevice hidentified
    have hnext : next = watched.after call := by
      cases hstep
      rw [hdevice]
      rfl
    have hidentified : anonymous watched.device call = false := hidentified
    rw [hnext]
    cases haccepts : watched.device.accepts call with
    | true => exact h.of_accepted haccepts hidentified
    | false =>
      have haccepted : (watched.after call).accepted = watched.accepted := by
        simp only [Watched.after, acceptance, haccepts, Bool.false_eq_true, if_false,
          List.nil_append]
      cases call with
      | admitIncarnation epoch boot => exact h.of_handshake
      | apply request =>
        exact h.of_sameSession (apply_cases _ request).1 (Bool.or_false _) haccepted
      | revoke request =>
        exact h.of_sameSession (revoke_cases _ request).1 (Bool.or_false _) haccepted
      | readBack request =>
        exact h.of_sameSession (readBack_cases _ request).1 (Bool.or_false _) haccepted

/-- Over every order of frames any sessions of a worker handle, as long as no request of the
current epoch comes without a boot id while none is admitted: no request is accepted before a
handshake was admitted, and all that are accepted in one epoch come from one boot id. -/
theorem one_boot_of_identified {config : WorkerSessionConfig} {watched : Watched}
    (h : Reaches watchedStep identified (freshWorker config) watched) :
    (∀ entry ∈ watched.accepted, entry.heralded = true) ∧
      ∀ entry ∈ watched.accepted, ∀ other ∈ watched.accepted, entry.epoch = other.epoch →
        entry.boot = other.boot := by
  have hattributed : Attributed watched :=
    h.invariant (freshWorker_attributed config)
      fun _ _ _ hkept hidentified hstep ↦ watchedStep_attributed hkept hidentified hstep
  exact ⟨fun entry hentry ↦ (hattributed.accepted entry hentry).1, hattributed.alike⟩

section Runs

def plainWorker : WorkerSessionConfig := { boot := ⟨9⟩ }

def greeting (epoch boot : U64) : WorkerSession × Frame :=
  (newSession plainWorker,
    { type := .hello, payload := encodeHello { epoch := ⟨epoch⟩, boot := ⟨boot⟩ } })

def application (epoch boot : U64) : WorkerSession × Frame :=
  (newSession plainWorker,
    { type := .applyRequest,
      payload := encodeApplyRequest
        { attempt := ⟨1⟩, envelope := ⟨4⟩, envelopeGeneration := ⟨1⟩, rateUps := 100,
          epoch := ⟨epoch⟩, boot := ⟨boot⟩ } })

/-- A coordinator is admitted and applies; another one of the same epoch is turned away. -/
def rivals : List (WorkerSession × Frame) :=
  [application 0 7, greeting 1 7, application 1 7, greeting 1 8, application 1 8]

theorem one_boot_of_rivals :
    ∃ watched, run watchedStep (freshWorker plainWorker) rivals = some watched ∧
      watched.accepted = [⟨⟨1⟩, ⟨7⟩, true⟩] ∧
      ∀ entry ∈ watched.accepted, ∀ other ∈ watched.accepted, entry.epoch = other.epoch →
        entry.boot = other.boot := by
  have hguarded : Guarded watchedStep identified (freshWorker plainWorker) rivals := by
    decide +kernel
  have hrun : (run watchedStep (freshWorker plainWorker) rivals).map (·.accepted) =
      some [⟨⟨1⟩, ⟨7⟩, true⟩] := by
    decide +kernel
  cases hreached : run watchedStep (freshWorker plainWorker) rivals with
  | none =>
    rw [hreached] at hrun
    cases hrun
  | some watched =>
    rw [hreached] at hrun
    refine ⟨watched, rfl, Option.some.inj hrun, ?_⟩
    exact (one_boot_of_identified (reaches_of_run hguarded hreached)).2

/-- Requests without a boot id are accepted before any handshake, and beside those of the
coordinator that is admitted later in the same epoch. -/
def impostor : List (WorkerSession × Frame) :=
  [application 0 0, greeting 0 7, application 0 7]

theorem anonymous_accepted :
    ∃ watched, run watchedStep (freshWorker plainWorker) impostor = some watched ∧
      ⟨⟨0⟩, {}, false⟩ ∈ watched.accepted ∧ ⟨⟨0⟩, ⟨7⟩, true⟩ ∈ watched.accepted := by
  have hrun : (run watchedStep (freshWorker plainWorker) impostor).map (·.accepted) =
      some [⟨⟨0⟩, ⟨7⟩, true⟩, ⟨⟨0⟩, {}, false⟩] := by
    decide +kernel
  cases hreached : run watchedStep (freshWorker plainWorker) impostor with
  | none =>
    rw [hreached] at hrun
    cases hrun
  | some watched =>
    rw [hreached] at hrun
    have haccepted : watched.accepted = _ := Option.some.inj hrun
    refine ⟨watched, rfl, ?_, ?_⟩
    · rw [haccepted]
      decide
    · rw [haccepted]
      decide

end Runs

end RateGovernor.Safety.SoleIncarnation
