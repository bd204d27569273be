import Mathlib.Data.List.Induction
import RateGovernor.Dynamics.Pooling
import RateGovernor.Safety.SoleIncarnation

namespace RateGovernor.Safety.SerialService

open Model.CheckedMath Model.Identity Model.Reason Model.Entities Model.Calls Model.Synthetic
open Model.Wire Model.Worker Model.WorkerPool Foundation.GuardedRun Dynamics.Pooling
open SoleIncarnation

def visitAfter (device : SyntheticDevice) : Visit → SyntheticDevice
  | .request pending => (calledBy pending.frame).elim device device.after
  | .elsewhere call => device.after call

/-- The device when everything has reached it one after the other. -/
def visited (device : SyntheticDevice) (visits : List Visit) : SyntheticDevice :=
  visits.foldl visitAfter device

abbrev Moments := List Visit → PendingFrame → WorkerSession → Prop

/-- An answer to a request that reached the device after `earlier` and before `later`. An admission
and a report of the accounting look at the epoch of the device once more, and a report has the
counters the session had at the moment of the request. -/
inductive Answer (found : Moments) (config : WorkerSessionConfig) (start : SyntheticDevice)
    (pending : PendingFrame) (earlier later : List Visit) : Frame → Prop
  | settled (htype : pending.frame.type ≠ .accountingRequest) :
    Answer found config start pending earlier later
      ((newSession config).handleFrame (visited start earlier) pending.frame).response
  | admitted (middle : List Visit) (hmiddle : middle <+: later) (htype : pending.frame.type = .hello)
    (hadmitted : ((newSession config).handleFrame (visited start earlier) pending.frame).response.type =
      .helloAck) :
    Answer found config start pending earlier later
      { type := .helloAck
        payload := encodeHello ((newSession config).helloReply
          (visited start (earlier ++ .request pending :: middle))) }
  | measured (middle : List Visit) (hmiddle : middle <+: later)
    (htype : pending.frame.type = .accountingRequest) (session : WorkerSession)
    (hfound : found earlier pending session) :
    Answer found config start pending earlier later
      { type := .accountingResponse
        payload := encodeAccountingResponse
          { session.wireAccounting (visited start earlier) with
            epoch := (visited start (earlier ++ .request pending :: middle)).highestEpoch } }

/-- The request has reached the device, with `R` of what came earlier and of what came later. -/
def Placed (visits : List Visit) (pending : PendingFrame) (R : List Visit → List Visit → Prop) :
    Prop :=
  ∃ earlier later, visits = earlier ++ .request pending :: later ∧ R earlier later

section Placing

variable {found : Moments} {config : WorkerSessionConfig} {start device : SyntheticDevice}
variable {visits earlier later : List Visit} {pending : PendingFrame}
variable {R Q : List Visit → List Visit → Prop}

theorem visited_append (device : SyntheticDevice) (visits rest : List Visit) :
    visited device (visits ++ rest) = visited (visited device visits) rest :=
  List.foldl_append

theorem Placed.append (h : Placed visits pending R) (rest : List Visit)
    (hgrow : ∀ earlier later, R earlier later → Q earlier (later ++ rest)) :
    Placed (visits ++ rest) pending Q := by
  obtain ⟨earlier, later, hvisits, hplaced⟩ := h
  refine ⟨earlier, later ++ rest, ?_, hgrow _ _ hplaced⟩
  rw [hvisits, List.append_assoc, List.cons_append]

theorem Placed.last (h : R visits []) : Placed (visits ++ [.request pending]) pending R :=
  ⟨visits, [], rfl, h⟩

theorem Answer.append {response : Frame} (h : Answer found config start pending earlier later response)
    (rest : List Visit) : Answer found config start pending earlier (later ++ rest) response := by
  cases h with
  | settled htype => exact .settled htype
  | admitted middle hmiddle htype hadmitted =>
    exact .admitted middle (hmiddle.trans (List.prefix_append _ _)) htype hadmitted
  | measured middle hmiddle htype session hfound =>
    exact .measured middle (hmiddle.trans (List.prefix_append _ _)) htype session hfound

def Serving (found : Moments) (config : WorkerSessionConfig) (start : SyntheticDevice)
    (visits : List Visit) : ThreadStage → Prop
  | .greeting pending => Placed visits pending fun earlier _ ↦
    pending.frame.type = .hello ∧
      ((newSession config).handleFrame (visited start earlier) pending.frame).response.type = .helloAck
  | .measuring pending message => Placed visits pending fun earlier _ ↦
    pending.frame.type = .accountingRequest ∧ ∃ session : WorkerSession,
      found earlier pending session ∧ message = session.wireAccounting (visited start earlier)
  | .finishing pending chores => ∀ response, .send response ∈ chores →
    Placed visits pending fun earlier later ↦
      Answer found config start pending earlier later response
  | _ => True

theorem Serving.append {stage : ThreadStage} (h : Serving found config start visits stage)
    (rest : List Visit) : Serving found config start (visits ++ rest) stage := by
  cases stage with
  | greeting pending =>
    unfold Serving at h ⊢
    exact h.append rest fun _ _ hplaced ↦ hplaced
  | measuring pending message =>
    unfold Serving at h ⊢
    exact h.append rest fun _ _ hplaced ↦ hplaced
  | finishing pending chores =>
    intro response hresponse
    exact (h response hresponse).append rest fun _ _ hanswer ↦ hanswer.append rest
  | _ => trivial

end Placing

section Sessions

variable {session other : WorkerSession} {device : SyntheticDevice} {frame : Frame}

theorem helloReply_of_config {config : WorkerSessionConfig} (hconfig : session.config = config) :
    session.helloReply device = (newSession config).helloReply device := by
  cases hconfig
  rfl

/-- Only a report of the accounting depends on more of the session than its configuration. -/
theorem response_of_config (hconfig : session.config = other.config)
    (htype : frame.type ≠ .accountingRequest) :
    (session.handleFrame device frame).response = (other.handleFrame device frame).response := by
  obtain ⟨config, accounting, stopping⟩ := session
  cases hconfig
  obtain ⟨type, flags, payload⟩ := frame
  cases type with
  | accountingRequest => exact absurd rfl htype
  | hello =>
    cases hdecode : decodeMessage decodeHello payload with
    | none =>
      simp only [WorkerSession.handleFrame, hdecode]
      rfl
    | some hello =>
      cases hadmit : device.admitIncarnation hello.epoch hello.boot with
      | mk reason next =>
        cases reason with
        | none =>
          simp only [WorkerSession.handleFrame, WorkerSession.handleHello, hdecode, hadmit]
          rfl
        | some reason =>
          simp only [WorkerSession.handleFrame, WorkerSession.handleHello, hdecode, hadmit]
  | applyRequest =>
    cases hdecode : decodeMessage decodeApplyRequest payload <;>
      simp only [WorkerSession.handleFrame, hdecode] <;> rfl
  | revokeRequest =>
    cases hdecode : decodeMessage decodeRevokeRequest payload <;>
      simp only [WorkerSession.handleFrame, hdecode] <;> rfl
  | verifyRequest =>
    cases hdecode : decodeMessage decodeVerifyRequest payload <;>
      simp only [WorkerSession.handleFrame, hdecode] <;> rfl
  | _ => rfl

end Sessions

/-- An answer is in its place, or it turns away a request that was refused. -/
def Fitting (found : Moments) (config : WorkerSessionConfig) (start : SyntheticDevice)
    (ledger : Ledger) (pending : PendingFrame) (response : Frame) : Prop :=
  (pending ∈ ledger.refused ∧ response = Pool.queueFull) ∨
    Placed ledger.visits pending fun earlier later ↦
      Answer found config start pending earlier later response

def Turning (refused : List PendingFrame) (reader : ReaderStage) : Prop :=
  ∀ pending chores, reader = .refusing pending chores →
    pending ∈ refused ∧ ∀ response, .send response ∈ chores → response = Pool.queueFull

def refusing : ReaderStage → Bool
  | .refusing _ _ => true
  | _ => false

/-- The device is as if everything had reached it in turn, every answer is the one that the request
gets at its place in that order, and the socket has carried the answers as they were offered, up to
a first one that it could not carry. -/
structure Serial (found : Moments) (config : WorkerSessionConfig) (start : SyntheticDevice)
    (o : Observed) : Prop where
  configured : o.pool.session.config = config
  device : o.pool.device = visited start o.ledger.visits
  threads : ∀ stage ∈ o.pool.threads, Serving found config start o.ledger.visits stage
  turning : Turning o.ledger.refused o.pool.reader
  offered : ∀ offer ∈ o.ledger.offered, ∀ pending, offer.request = some pending →
    Fitting found config start o.ledger pending offer.response
  sent : o.pool.sent <+: o.ledger.offered.map Offer.response
  carried : o.pool.connected = true → o.pool.sent = o.ledger.offered.map Offer.response

section Steps

variable {found : Moments} {config : WorkerSessionConfig} {start : SyntheticDevice} {o : Observed}
variable {next : Pool} {delivered : Bool} {index : ℕ} {stage : ThreadStage}

theorem Serial.setThread (h : Serial found config start o) (index : ℕ)
    (hserving : Serving found config start o.ledger.visits stage) :
    Serial found config start ⟨o.pool.setThread index stage, o.ledger⟩ := by
  refine ⟨h.configured, h.device, ?_, h.turning, h.offered, h.sent, h.carried⟩
  intro other hother
  rcases List.mem_or_eq_of_mem_set hother with hold | rfl
  · exact h.threads other hold
  · exact hserving

theorem Serial.setReader (h : Serial found config start o) (reader : ReaderStage)
    (hturning : Turning o.ledger.refused reader) :
    Serial found config start ⟨{ o.pool with reader }, o.ledger⟩ :=
  ⟨h.configured, h.device, h.threads, hturning, h.offered, h.sent, h.carried⟩

theorem Serial.pass (h : Serial found config start o) (reader : ReaderStage)
    (hquiet : refusing reader = false) :
    Serial found config start ⟨{ o.pool with reader }, o.ledger⟩ := by
  refine h.setReader reader ?_
  rintro pending chores rfl
  cases hquiet

theorem Serial.of_same {after : Observed} (h : Serial found config start o)
    (hconfig : after.pool.session.config = o.pool.session.config)
    (hdevice : after.pool.device = o.pool.device) (hthreads : after.pool.threads = o.pool.threads)
    (hreader : after.pool.reader = o.pool.reader) (hsent : after.pool.sent = o.pool.sent)
    (hconnected : after.pool.connected = true → o.pool.connected = true)
    (hvisits : after.ledger.visits = o.ledger.visits)
    (hrefused : after.ledger.refused = o.ledger.refused)
    (hoffered : after.ledger.offered = o.ledger.offered) : Serial found config start after := by
  refine ⟨hconfig.trans h.configured, ?_, ?_, ?_, ?_, ?_, ?_⟩
  · rw [hdevice, hvisits]
    exact h.device
  · rw [hthreads, hvisits]
    exact h.threads
  · rw [hrefused, hreader]
    exact h.turning
  · rw [hoffered]
    intro offer hoffer pending hpending
    rw [Fitting, hrefused, hvisits]
    exact h.offered offer hoffer pending hpending
  · rw [hsent, hoffered]
    exact h.sent
  · intro hopen
    rw [hsent, hoffered]
    exact h.carried (hconnected hopen)

theorem Serial.send {request : Option PendingFrame} {response : Frame} (h : Serial found config start o)
    (hfitting : ∀ pending, request = some pending →
      Fitting found config start o.ledger pending response) :
    Serial found config start
      ⟨o.pool.send response delivered, o.ledger.did request (.send response)⟩ := by
  have hoffered : ∀ offer ∈ (o.ledger.did request (.send response)).offered, ∀ pending,
      offer.request = some pending → Fitting found config start o.ledger pending offer.response := by
    intro offer hoffer pending hpending
    rcases List.mem_append.mp hoffer with hold | hnew
    · exact h.offered offer hold pending hpending
    · cases List.mem_singleton.mp hnew
      exact hfitting pending hpending
  have hmap : (o.ledger.did request (.send response)).offered.map Offer.response =
      o.ledger.offered.map Offer.response ++ [response] := List.map_append
  simp only [Pool.send]
  split
  · next hsends =>
    have hopen : o.pool.connected = true := by
      simp only [Bool.and_eq_true] at hsends
      exact hsends.1.1
    have hcarried : o.pool.sent ++ [response] =
        (o.ledger.did request (.send response)).offered.map Offer.response := by
      rw [hmap, h.carried hopen]
    exact ⟨h.configured, h.device, h.threads, h.turning, hoffered, hcarried ▸ List.prefix_refl _,
      fun _ ↦ hcarried⟩
  · refine ⟨h.configured, h.device, h.threads, h.turning, hoffered, ?_, ?_⟩
    · rw [hmap]
      exact h.sent.trans (List.prefix_append _ _)
    · rintro ⟨⟩

theorem Serial.chore {request : Option PendingFrame} {chore : Chore} (h : Serial found config start o)
    (hfitting : ∀ response, chore = .send response → ∀ pending, request = some pending →
      Fitting found config start o.ledger pending response) :
    Serial found config start ⟨o.pool.perform delivered chore, o.ledger.did request chore⟩ := by
  cases chore with
  | send response => exact h.send (hfitting response rfl)
  | _ => exact h.of_same rfl rfl rfl rfl rfl id rfl rfl rfl

theorem Serial.visit (h : Serial found config start o) (visit : Visit) :
    Serial found config start
      ⟨{ o.pool with device := visitAfter o.pool.device visit },
        { o.ledger with visits := o.ledger.visits ++ [visit] }⟩ := by
  refine ⟨h.configured, ?_, fun other hother ↦ (h.threads other hother).append [visit], h.turning,
    ?_, h.sent, h.carried⟩
  · rw [visited_append, h.device]
    rfl
  · intro offer hoffer pending hpending
    rcases h.offered offer hoffer pending hpending with hrefused | hplaced
    · exact .inl hrefused
    · exact .inr (hplaced.append [visit] fun _ _ hanswer ↦ hanswer.append [visit])

theorem serving_of_handles {pending : PendingFrame} {visits : List Visit} {device : SyntheticDevice}
    {session : WorkerSession} (hconfig : session.config = config)
    (hdevice : device = visited start visits) (hfound : found visits pending session)
    (h : Handles session device pending stage) :
    Serving found config start (visits ++ [.request pending]) stage := by
  have hnew : session.config = (newSession config).config := hconfig
  subst hdevice
  cases h with
  | settled chores htype hsettling =>
    intro response hresponse
    refine Placed.last ?_
    have hsame : response = (session.handleFrame (visited start visits) pending.frame).response := by
      cases hsettling <;> simpa [answered] using hresponse
    rw [hsame, response_of_config hnew htype]
    exact .settled htype
  | admitted hhello hack =>
    have hother : pending.frame.type ≠ .accountingRequest := by
      rw [hhello]
      decide
    unfold Serving
    refine Placed.last ⟨hhello, ?_⟩
    rw [← response_of_config hnew hother, hack]
  | measured hmeasured =>
    unfold Serving
    exact Placed.last ⟨hmeasured, session, hfound, rfl⟩

theorem Serial.thread (h : Serial found config start o) (ht : o.pool.threads[index]? = some stage)
    (hfound : ∀ pending, stage = .starting pending → found o.ledger.visits pending o.pool.session)
    (hs : o.pool.threadStep index delivered stage = some next) :
    Serial found config start ⟨next, o.ledger.noteThread o.pool stage⟩ := by
  have hserving := h.threads stage (List.mem_of_getElem? ht)
  have hidle : Serving found config start o.ledger.visits .waiting := trivial
  cases stage with
  | waiting =>
    simp only [Pool.threadStep] at hs
    split at hs
    · split at hs
      · cases hs
        have hreturned : Serving found config start o.ledger.visits .returned := trivial
        exact (h.setThread _ hreturned).of_same rfl rfl rfl rfl rfl id rfl rfl rfl
      · cases hs
    · next _ pending queue _ =>
      cases hs
      have hchecking : Serving found config start o.ledger.visits (.checking pending) := trivial
      exact (h.setThread _ hchecking).of_same rfl rfl rfl rfl rfl id rfl rfl rfl
  | checking pending =>
    simp only [Pool.threadStep] at hs
    split at hs <;> cases hs <;> exact h.setThread _ trivial
  | starting pending =>
    obtain ⟨hdevice, hhandles⟩ := handleFrame_refines o.pool.session o.pool.device pending
    rw [handleFrame_device] at hdevice
    have hstage := serving_of_handles h.configured h.device (hfound pending rfl) hhandles
    simp only [Pool.threadStep] at hs
    generalize handleFrame o.pool.session o.pool.device pending = result at hs hdevice hstage
    cases hs
    have hvisit := (h.visit (.request pending)).setThread index hstage
    refine hvisit.of_same rfl ?_ rfl rfl rfl id rfl rfl rfl
    exact hdevice
  | greeting pending =>
    cases hs
    refine h.setThread _ ?_
    intro response hresponse
    obtain ⟨earlier, later, hvisits, hhello, hack⟩ := hserving
    refine ⟨earlier, later, hvisits, ?_⟩
    have hsame : response =
        { type := .helloAck
          payload := encodeHello (o.pool.session.helloReply o.pool.device) } := by
      simpa using hresponse
    rw [hsame, h.device, hvisits, helloReply_of_config h.configured]
    exact .admitted later (List.prefix_refl later) hhello hack
  | measuring pending message =>
    cases hs
    refine h.setThread _ ?_
    intro response hresponse
    obtain ⟨earlier, later, hvisits, htype, session, hfound, hmessage⟩ := hserving
    refine ⟨earlier, later, hvisits, ?_⟩
    have hsame : response =
        { type := .accountingResponse
          payload := encodeAccountingResponse
            { message with epoch := o.pool.device.highestEpoch } } := by
      simpa using hresponse
    rw [hsame, h.device, hvisits, hmessage]
    exact .measured later (List.prefix_refl later) htype session hfound
  | finishing pending chores =>
    cases chores with
    | nil =>
      cases hs
      exact (h.setThread _ hidle).of_same rfl rfl rfl rfl rfl id rfl rfl rfl
    | cons chore chores =>
      cases hs
      have hchore : Serial found config start ⟨o.pool.perform delivered chore,
          o.ledger.did (some pending) chore⟩ := by
        refine h.chore fun response hsend asked hasked ↦ ?_
        cases hasked
        exact .inr (hserving response (hsend ▸ List.mem_cons_self))
      have hvisits := (did_keeps o.ledger (some pending) chore).2.2.2.2.2.1
      refine hchore.setThread _ fun response hresponse ↦ ?_
      rw [hvisits]
      exact hserving response (List.mem_cons_of_mem _ hresponse)
  | dropping pending =>
    cases hs
    exact (h.setThread _ hidle).of_same rfl rfl rfl rfl rfl id rfl rfl rfl
  | returned => cases hs

theorem Serial.reader (h : Serial found config start o) (hs : o.pool.readerStep delivered = some next) :
    Serial found config start ⟨next, o.ledger.noteReader o.pool⟩ := by
  cases hreader : o.pool.reader with
  | admitting pending =>
    simp only [Pool.readerStep, hreader] at hs
    simp only [Ledger.noteReader, hreader]
    split at hs
    · next hroom =>
      cases hs
      rw [if_pos hroom]
      have hpolling := h.pass .polling rfl
      exact hpolling.of_same rfl rfl rfl rfl rfl id rfl rfl rfl
    · next hroom =>
      cases hs
      rw [if_neg hroom]
      refine ⟨h.configured, h.device, h.threads, ?_, ?_, h.sent, h.carried⟩
      · intro asked chores hchores
        cases hchores
        exact ⟨List.mem_append_right _ (List.mem_singleton_self pending),
          fun response hresponse ↦ by simpa using hresponse⟩
      · intro offer hoffer asked hasked
        rcases h.offered offer hoffer asked hasked with ⟨hrefused, hfull⟩ | hplaced
        · exact .inl ⟨List.mem_append_left _ hrefused, hfull⟩
        · exact .inr hplaced
  | refusing pending chores =>
    simp only [Pool.readerStep, hreader] at hs
    simp only [Ledger.noteReader, hreader]
    obtain ⟨hrefused, hfull⟩ := h.turning pending chores hreader
    cases chores with
    | nil =>
      cases hs
      exact h.pass _ rfl
    | cons chore chores =>
      cases hs
      have hchore : Serial found config start ⟨o.pool.perform delivered chore,
          o.ledger.did (some pending) chore⟩ := by
        refine h.chore fun response hsend asked hasked ↦ ?_
        cases hasked
        exact .inl ⟨hrefused, hfull response (hsend ▸ List.mem_cons_self)⟩
      refine hchore.setReader _ ?_
      intro asked rest hrest
      cases hrest
      rw [(did_keeps o.ledger (some pending) chore).2.2.1]
      exact ⟨hrefused, fun response hresponse ↦ hfull response (List.mem_cons_of_mem _ hresponse)⟩
  | shutting chores =>
    simp only [Pool.readerStep, hreader] at hs
    simp only [Ledger.noteReader, hreader]
    cases chores with
    | nil =>
      cases hs
      exact h.pass _ rfl
    | cons chore chores =>
      cases hs
      have hchore : Serial found config start ⟨o.pool.perform delivered chore,
          o.ledger.did none chore⟩ := by
        refine h.chore fun _ _ _ hasked ↦ ?_
        cases hasked
      exact hchore.pass _ rfl
  | received frame =>
    simp only [Pool.readerStep, hreader] at hs
    simp only [Ledger.noteReader, hreader]
    split at hs
    · next htype =>
      cases hs
      rw [if_pos htype]
      exact h.pass _ rfl
    · next htype =>
      cases hs
      rw [if_neg htype]
      have hadmitting := h.pass (.admitting { frame, sequence := o.pool.sequence + 1 }) rfl
      exact hadmitting.of_same rfl rfl rfl rfl rfl id rfl rfl rfl
  | polling =>
    simp only [Pool.readerStep, hreader] at hs
    simp only [Ledger.noteReader, hreader]
    cases hs
    refine h.pass _ ?_
    split <;> rfl
  | measuring message =>
    simp only [Pool.readerStep, hreader] at hs
    simp only [Ledger.noteReader, hreader]
    cases hs
    exact h.pass _ rfl
  | ended =>
    simp only [Pool.readerStep, hreader] at hs
    simp only [Ledger.noteReader, hreader]
    cases hs
    have hclosing := h.pass .closing rfl
    exact hclosing.of_same rfl rfl rfl rfl rfl id rfl rfl rfl
  | closing =>
    simp only [Pool.readerStep, hreader] at hs
    simp only [Ledger.noteReader, hreader]
    cases hs
    have hjoining := h.pass .joining rfl
    exact hjoining.of_same rfl rfl rfl rfl rfl id rfl rfl rfl
  | joining =>
    simp only [Pool.readerStep, hreader] at hs
    simp only [Ledger.noteReader, hreader]
    split at hs
    · cases hs
      have hreturned := h.pass .returned rfl
      refine hreturned.of_same rfl rfl rfl rfl rfl ?_ rfl rfl rfl
      rintro ⟨⟩
    · cases hs
  | receiving => rw [Pool.readerStep, hreader] at hs; cases hs
  | returned => rw [Pool.readerStep, hreader] at hs; cases hs

theorem serial_step {after : Observed} {event : Event} (h : Serial found config start o)
    (hfound : ∀ index delivered pending, event = .thread index delivered →
      o.pool.threads[index]? = some (.starting pending) →
        found o.ledger.visits pending o.pool.session)
    (hs : o.step event = some after) : Serial found config start after := by
  obtain ⟨pool, hpool, rfl⟩ := Option.map_eq_some_iff.mp hs
  cases event with
  | reader delivered => exact h.reader hpool
  | thread index delivered =>
    obtain ⟨stage, hstage, hthread⟩ := Option.bind_eq_some_iff.mp hpool
    simp only [Ledger.note, hstage]
    refine h.thread hstage (fun pending hstarting ↦ ?_) hthread
    exact hfound index delivered pending rfl (hstarting ▸ hstage)
  | elsewhere call =>
    cases hpool
    exact h.visit (.elsewhere call)
  | requestStop =>
    cases hpool
    refine h.of_same rfl rfl rfl rfl rfl ?_ rfl rfl rfl
    rintro ⟨⟩
  | receive incoming =>
    simp only [Pool.step] at hpool
    split at hpool
    · split at hpool
      · cases hpool
      · cases hpool
        cases incoming with
        | ok frame => exact h.pass _ rfl
        | error failure =>
          have hended := h.pass .ended rfl
          refine hended.of_same ?_ ?_ ?_ ?_ ?_ ?_ rfl rfl rfl <;> simp only [Pool.receive] <;>
            split <;> first | rfl | exact id
    · cases hpool

end Steps

section Runs

variable {config : WorkerSessionConfig} {device : SyntheticDevice} {o : Observed}
variable {found : Moments} {events : List Event}

theorem serial_new (config : WorkerSessionConfig) (device : SyntheticDevice) :
    Serial found config device (newlyObserved config device) := by
  refine ⟨rfl, rfl, ?_, ?_, ?_, List.prefix_refl _, fun _ ↦ rfl⟩
  · intro stage hstage
    cases List.eq_of_mem_replicate hstage
    trivial
  · rintro pending chores ⟨⟩
  · rintro offer ⟨⟩

/-- In the run of the events there is a step in which the request reaches the device after `earlier`,
while the session is as given. -/
def MetIn (config : WorkerSessionConfig) (device : SyntheticDevice) (events : List Event)
    (earlier : List Visit) (pending : PendingFrame) (session : WorkerSession) : Prop :=
  ∃ done index delivered rest o, events = done ++ .thread index delivered :: rest ∧
    run Observed.step (newlyObserved config device) done = some o ∧
    o.pool.threads[index]? = some (.starting pending) ∧
    o.ledger.visits = earlier ∧ o.pool.session = session

/-- Every beginning of a run keeps the order, with the moments of all of the run. -/
theorem serial_along {done rest : List Event} (h : events = done ++ rest)
    (hrun : run Observed.step (newlyObserved config device) done = some o) :
    Serial (MetIn config device events) config device o := by
  induction done using List.reverseRecOn generalizing rest o with
  | nil =>
    cases hrun
    exact serial_new config device
  | append_singleton done event ih =>
    obtain ⟨before, hbefore, hstep⟩ := run_concat hrun
    rw [List.append_assoc, List.singleton_append] at h
    refine serial_step (ih h hbefore) (fun index delivered pending hevent hstarting ↦ ?_) hstep
    exact ⟨done, index, delivered, rest, before, hevent ▸ h, hbefore, hstarting, rfl, rfl⟩

/-- A worker whose two threads take a greeting and an apply request at the same time. -/
def pairedWorker : WorkerSessionConfig := { boot := ⟨9⟩, threads := 2 }

/-- The report of the accounting is made up while the apply is not yet counted. -/
def overlap : List Event :=
  let greeting : Frame := { type := .hello, payload := encodeHello { epoch := ⟨1⟩, boot := ⟨7⟩ } }
  let order : Frame :=
    { type := .applyRequest
      payload := encodeApplyRequest
        { attempt := ⟨1⟩, envelope := ⟨1⟩, envelopeGeneration := ⟨1⟩, epoch := ⟨1⟩, boot := ⟨7⟩ } }
  [.reader true, .receive (.ok greeting), .reader true, .reader true, .reader true,
    .receive (.ok order), .reader true, .reader true, .reader true,
    .receive (.ok { type := .accountingRequest }), .reader true, .reader true, .thread 0 true,
    .thread 1 true, .thread 0 true, .thread 1 true, .thread 0 true, .thread 1 true, .thread 0 true,
    .thread 0 true, .thread 0 true, .thread 0 true, .thread 0 true, .thread 0 true, .thread 0 true,
    .thread 0 true, .thread 0 true, .thread 1 true]

/-- However the threads of a session and the other sessions of the worker take their turns, the
device and the answers are those of some order in which everything was served at once. -/
theorem served_in_turn
    (hrun : run Observed.step (newlyObserved config device) events = some o) :
    o.pool.device = visited device o.ledger.visits ∧
      (∀ offer ∈ o.ledger.offered, ∀ pending, offer.request = some pending →
        Fitting (MetIn config device events) config device o.ledger pending offer.response) ∧
      o.pool.sent <+: o.ledger.offered.map Offer.response := by
  have hserial := serial_along (List.append_nil events).symm hrun
  exact ⟨hserial.device, hserial.offered, hserial.sent⟩

/-- The report is sent before the answer to the apply request, which reached the device first. -/
theorem served_in_turn_overlap : ∃ o,
    run Observed.step (newlyObserved pairedWorker pairedWorker.newDevice) overlap = some o ∧
    o.pool.sent.map (·.type) = [.helloAck, .accountingResponse, .applyResponse] ∧
    o.pool.device = visited pairedWorker.newDevice o.ledger.visits ∧
    ∀ offer ∈ o.ledger.offered, ∀ pending, offer.request = some pending →
      Fitting (MetIn pairedWorker pairedWorker.newDevice overlap) pairedWorker pairedWorker.newDevice
        o.ledger pending offer.response := by
  have hanswers : (run Observed.step (newlyObserved pairedWorker pairedWorker.newDevice) overlap).map
      (fun o ↦ o.pool.sent.map (·.type)) =
        some [.helloAck, .accountingResponse, .applyResponse] := by
    decide +kernel
  obtain ⟨o, hrun, hsent⟩ := Option.map_eq_some_iff.mp hanswers
  obtain ⟨hdevice, hanswered, -⟩ := served_in_turn hrun
  exact ⟨o, hrun, hsent, hdevice, hanswered⟩

end Runs

end RateGovernor.Safety.SerialService
