import RateGovernor.Dynamics.Demotion
import RateGovernor.Dynamics.Surviving

namespace RateGovernor.Dynamics.Torn

open Model.CheckedMath Model.Identity Model.Reason Model.Entities Model.Envelope Model.Journal
open Model.JournalWriter Model.EngineState Model.Durability Model.Authority Model.Lifecycle
open Model.Maintenance Model.Execution Model.Recovery Foundation.ByteCodec Foundation.KeyedTable
open Install Sections Staging Framing Commits Compacting Journaling Reopening Demotion Integrity
open Buckets Restoring Surviving Records

variable {file origin : Bytes} {scan : Scan} {config : EngineConfig} {demotedNs advancedNs : U64}
  {io : Io} {engine : Engine}

section Tails

def tornBytes (file : Bytes) : ℕ := (scanJournalFile file).discardedTruncatedBytes.toNat

/-- The file ends with the front of a record, and a scan gets no further. -/
def Torn (file : Bytes) : Prop :=
  ∃ rest scan, rest <:+ file ∧ rest.length = tornBytes file ∧ rest ≠ [] ∧
    (∀ more, scanBytes (file ++ more) {} = scanBytes (rest ++ more) scan) ∧
    decodeJournalRecord rest kScanPayloadBound = .error .truncated

/-- What was appended behind a torn record has completed it to one that the scanner takes. -/
def Completed (origin file : Bytes) : Prop :=
  tornBytes origin ≠ 0 ∧ origin <+: file ∧
    (decodeJournalRecord (file.drop (origin.length - tornBytes origin)) kScanPayloadBound).isOk

instance (origin file : Bytes) : Decidable (Completed origin file) :=
  inferInstanceAs (Decidable (_ ∧ _ ∧ _))

theorem flagged_accept {record : JournalRecord} {scan' : Scan} (h : scan.accept record = some scan')
    (hflag : scan.result.discardedTruncatedBytes ≠ 0 → scan.result.truncatedTail = true) :
    scan'.result.discardedTruncatedBytes ≠ 0 → scan'.result.truncatedTail = true := by
  unfold Scan.accept at h
  simp only at h
  repeat' split at h
  all_goals cases h <;> exact hflag

theorem flagged_scanLoop {fuel : ℕ} {bytes : Bytes}
    (hflag : scan.result.discardedTruncatedBytes ≠ 0 → scan.result.truncatedTail = true) :
    (scanLoop fuel bytes scan).result.discardedTruncatedBytes ≠ 0 →
      (scanLoop fuel bytes scan).result.truncatedTail = true := by
  induction fuel generalizing bytes scan with
  | zero => exact hflag
  | succ fuel ih =>
    unfold scanLoop
    split
    · exact hflag
    · split
      · exact fun _ ↦ rfl
      · exact hflag
      · split
        · exact hflag
        · next haccept => exact ih (flagged_accept haccept hflag)

/-- A scan that drops torn bytes reports a torn tail. -/
theorem truncatedTail_of_torn (h : tornBytes file ≠ 0) :
    (scanJournalFile file).truncatedTail = true := by
  unfold tornBytes scanJournalFile at h
  unfold scanJournalFile
  split at h
  · exact absurd rfl h
  · next hsize =>
    rw [if_neg hsize]
    rw [(finish_tail _).1] at h
    have hflag : (scanLoop file.length file {}).result.truncatedTail = true :=
      flagged_scanLoop (fun hzero ↦ absurd rfl hzero) fun hzero ↦ h (by rw [hzero]; rfl)
    unfold Scan.finish
    simp only
    split
    · exact hflag
    · rfl

theorem scanLoop_torn {fuel : ℕ} {bytes : Bytes} (hfuel : bytes.length ≤ fuel)
    (hsize : bytes.length < 2 ^ 64) (hscan : scan.result.discardedTruncatedBytes = 0)
    (hstatus : (scanLoop fuel bytes scan).result.status = .ok ∨
      (scanLoop fuel bytes scan).result.status = .truncated)
    (htail : (scanLoop fuel bytes scan).result.discardedTruncatedBytes ≠ 0) :
    ∃ rest scan', rest <:+ bytes ∧
      rest.length = (scanLoop fuel bytes scan).result.discardedTruncatedBytes.toNat ∧ rest ≠ [] ∧
      (∀ more, scanBytes (bytes ++ more) scan = scanBytes (rest ++ more) scan') ∧
      decodeJournalRecord rest kScanPayloadBound = .error .truncated := by
  induction fuel generalizing bytes scan with
  | zero => exact absurd hscan htail
  | succ fuel ih =>
    by_cases hbytes : bytes = []
    · subst hbytes
      exact absurd hscan htail
    · simp only [scanLoop, if_neg hbytes] at hstatus htail ⊢
      cases hdecode : decodeJournalRecord bytes kScanPayloadBound with
      | error status =>
        obtain rfl | ⟨hok, htruncated⟩ := decode_error hdecode
        · refine ⟨bytes, scan, List.suffix_rfl, ?_, hbytes, fun _ ↦ rfl, hdecode⟩
          simp only [Scan.truncate, hscan, UInt64.zero_add]
          exact (UInt64.toNat_ofNat_of_lt' hsize).symm
        · exfalso
          have hrejected : status = .ok ∨ status = .truncated := by
            cases status with
            | truncated => exact .inr rfl
            | _ => simpa only [hdecode, Scan.reject] using hstatus
          exact hrejected.elim hok htruncated
      | ok decoded =>
        obtain ⟨record, consumed⟩ := decoded
        obtain ⟨-, hle, hpos⟩ := decode_append hdecode []
        simp only [hdecode] at hstatus htail ⊢
        cases haccept : scan.accept record with
        | none =>
          simp only [haccept, Scan.reject] at hstatus
          exact absurd hstatus (by decide)
        | some next =>
          simp only [haccept] at hstatus htail ⊢
          obtain ⟨rest, scan', hsuffix, hlength, hne, hscans, htorn⟩ :=
            ih (by rw [List.length_drop]; omega) (by rw [List.length_drop]; omega)
              ((accept_tail haccept).1.trans hscan) hstatus htail
          refine ⟨rest, scan', hsuffix.trans (List.drop_suffix _ _), hlength, hne, fun more ↦ ?_,
            htorn⟩
          rw [scanBytes_of_ok (fun h ↦ hbytes (List.append_eq_nil_iff.1 h).1)
            (decode_append hdecode more).1 haccept, List.drop_append_of_le_length hle]
          exact hscans more

/-- A file that can be read is read to its end, or is torn. -/
theorem clean_or_torn (hok : (scanJournalFile file).ok = true) :
    (∃ scan, Clean file scan ∧ scan.result.status = .ok) ∨ Torn file := by
  by_cases htail : (scanJournalFile file).discardedTruncatedBytes = 0
  · obtain ⟨scan, hclean, -, hstatus⟩ := clean_of_scan hok htail
    exact .inl ⟨scan, hclean, hstatus⟩
  · refine .inr ?_
    unfold Torn tornBytes
    unfold scanJournalFile at hok htail ⊢
    split at hok
    · cases hok
    · next hsize =>
      rw [if_neg hsize] at htail ⊢
      obtain ⟨hdiscarded, -, -, hstatus⟩ := finish_tail (scanLoop file.length file {})
      rw [hdiscarded] at htail ⊢
      have hlt : file.length < 2 ^ 64 := by
        simp only [kJournalMaxScanBytes] at hsize
        omega
      exact scanLoop_torn (Nat.le_refl _) hlt rfl (hstatus.1 hok) htail

theorem recordsIn_of_ok (hok : (scanJournalFile file).ok = true) :
    (scanJournalFile file).committed.map content = recordsIn file := by
  unfold scanJournalFile at hok ⊢
  split at hok
  · cases hok
  · next hsize =>
    rw [if_neg hsize, (finish_tail _).2.2.1]
    rfl

theorem committed_of_error {bytes : Bytes} {status : JournalStatus} (hbytes : bytes ≠ [])
    (h : decodeJournalRecord bytes kScanPayloadBound = .error status) :
    (scanBytes bytes scan).result.committed = scan.result.committed := by
  unfold scanBytes
  rw [scanLoop_fuel (Nat.le_refl _) (Nat.le_succ _)]
  simp only [scanLoop, if_neg hbytes, h]
  cases status <;> rfl

/-- Nothing that is appended behind a torn record is read, unless it completes the record. -/
theorem recordsIn_behind (h : Torn origin) (hbehind : origin <+: file)
    (hcompleted : ¬ Completed origin file) : recordsIn file = recordsIn origin := by
  obtain ⟨rest, scan, hsuffix, hlength, hne, hscans, htorn⟩ := h
  obtain ⟨more, rfl⟩ := hbehind
  obtain ⟨front, rfl⟩ := hsuffix
  have hzero : tornBytes (front ++ rest) ≠ 0 := by
    rw [← hlength]
    exact fun h ↦ hne (List.eq_nil_of_length_eq_zero h)
  have hdrop : (front ++ rest ++ more).drop
      ((front ++ rest).length - tornBytes (front ++ rest)) = rest ++ more := by
    rw [← hlength, List.length_append, Nat.add_sub_cancel, List.append_assoc, List.drop_left]
  have herror : ∃ status, decodeJournalRecord (rest ++ more) kScanPayloadBound = .error status := by
    cases hdecode : decodeJournalRecord (rest ++ more) kScanPayloadBound with
    | error status => exact ⟨status, rfl⟩
    | ok decoded =>
      refine absurd ⟨hzero, List.prefix_append _ _, ?_⟩ hcompleted
      rw [hdrop, hdecode]
      rfl
  obtain ⟨status, herror⟩ := herror
  have hfile := hscans more
  have horigin := hscans []
  rw [List.append_nil, List.append_nil] at horigin
  unfold recordsIn
  rw [hfile, horigin, committed_of_error hne htorn,
    committed_of_error (fun h ↦ hne (List.append_eq_nil_iff.1 h).1) herror]

theorem not_completed_take (hbehind : origin <+: file)
    (hcompleted : ¬ Completed origin file) (n : ℕ) : ¬ Completed origin (file.take n) := by
  rintro ⟨hzero, hprefix, hdecode⟩
  refine hcompleted ⟨hzero, hbehind, ?_⟩
  have hsplit : file.drop (origin.length - tornBytes origin) =
      (file.take n).drop (origin.length - tornBytes origin) ++ file.drop n := by
    rw [← List.drop_append_of_le_length (by have := hprefix.length_le; omega),
      List.take_append_drop]
  cases hdecoded : decodeJournalRecord ((file.take n).drop (origin.length - tornBytes origin))
      kScanPayloadBound with
  | error status =>
    rw [hdecoded] at hdecode
    cases hdecode
  | ok decoded =>
    rw [hsplit, (decode_append hdecoded (file.drop n)).1]
    rfl

theorem sane_behind (hsane : Sane origin) (h : Torn origin) (hbehind : origin <+: file)
    (hcompleted : ¬ Completed origin file) : Sane file := by
  intro n
  obtain hn | hn := Nat.lt_or_ge n origin.length
  · obtain ⟨more, rfl⟩ := hbehind
    rw [List.take_append_of_le_length (Nat.le_of_lt hn)]
    exact hsane n
  · have hprefix : origin <+: file.take n := by
      obtain ⟨more, rfl⟩ := hbehind
      rw [List.take_append, List.take_of_length_le hn]
      exact List.prefix_append _ _
    rw [recordsIn_behind h hprefix (not_completed_take hbehind hcompleted n)]
    exact hsane.restores

end Tails

section Recovered

/-- The journal writes a file it can vouch for, or behind a torn one. -/
def Enduring (origin : Bytes) (durability : Durability) : Prop :=
  Reliable durability ∨ Torn origin ∧ Trailing origin durability

theorem enduring_commitRecords {tables : Tables} {durability : Durability}
    {entries : List (JournalRecordType × Bytes)} (h : Enduring origin durability)
    (hentries : Admissible entries) (hrestores : Restores entries)
    (hall : AllAccounted tables.envelopes) :
    Enduring origin (commitRecords config tables durability entries io).durability := by
  obtain hreliable | ⟨htorn, htrailing⟩ := h
  · exact .inl (reliable_commitRecords hreliable hentries hrestores hall)
  · obtain htrailing | hreliable := trailing_commitRecords htrailing hentries hall
    · exact .inr ⟨htorn, htrailing⟩
    · exact .inl hreliable

theorem enduring_perform {ρ : Type} {decision : Decision ρ} (h : Enduring origin engine.durability)
    (hentries : Admissible (contents engine decision)) (hrecording : Recording engine decision)
    (hall : AllAccounted engine.tables.envelopes) :
    Enduring origin (decision.perform engine io).1.durability := by
  obtain hreliable | ⟨htorn, htrailing⟩ := h
  · exact .inl (reliable_perform hreliable hentries hrecording hall)
  · obtain htrailing | hreliable := trailing_perform htrailing hentries hrecording hall
    · exact .inr ⟨htorn, htrailing⟩
    · exact .inl hreliable

theorem tables_perform {ρ : Type} (decision : Decision ρ) (engine : Engine) (io : Io) :
    (decision.perform engine io).1.tables = engine.tables ∨
      (decision.perform engine io).1.tables =
        installed engine.config engine.tables decision.records := by
  unfold Decision.perform
  split
  · exact .inl rfl
  · simp only
    split
    · exact .inl rfl
    · exact .inr rfl

theorem enduring_reopen {journalConfig : JournalConfig} (hok : (scanJournalFile file).ok = true)
    (hsane : Sane file) : Enduring file { journal := some (.reopen journalConfig file) } := by
  obtain ⟨scan, hclean, hstatus⟩ | htorn := clean_or_torn hok
  · refine .inl ⟨fun journal hjournal ↦ ?_, .inr fun journal hjournal _ ↦ ?_⟩
    · cases hjournal
      exact hsane
    · cases hjournal
      exact ⟨rfl, scan, hclean, hstatus⟩
  · refine .inr ⟨htorn, fun journal hjournal ↦ ?_, .inr fun journal hjournal _ ↦ ?_⟩
    · cases hjournal
      exact List.prefix_rfl
    · cases hjournal
      rfl

theorem allAccounted_empty : AllAccounted .empty := by
  intro k envelope hfind
  rw [Registry.find_empty] at hfind
  cases hfind

theorem restores_banner (boot : WorkerBootId) (epoch : FabricEpoch) (reason : ReasonCode) :
    Restores [Staged.record boot (.epoch epoch reason)] := by
  refine EachAccounted.restores fun entry hmem envelope hentry ↦ ?_
  obtain rfl := List.mem_singleton.1 hmem
  cases hentry

theorem accounted_demotion {actor : ActorContext} {now : U64}
    (hall : AllAccounted engine.tables.envelopes) {type : JournalRecordType}
    {envelope : RateEnvelope}
    (hmem : .envelope type envelope ∈ (demoteForRecovery engine actor now).records) :
    Accounted envelope := by
  obtain ⟨attempt, -, hrecord⟩ | ⟨old, hold, new, hdemoted, hrecord⟩ :=
    demoteForRecovery_records hmem
  · cases hrecord
  · cases hrecord
    exact (sameAccount_of_demoted hdemoted).accounted (hall _ old (Registry.mem_entries.1 hold))

theorem recording_demotion (actor : ActorContext) (now : U64)
    (hall : AllAccounted engine.tables.envelopes) :
    Recording engine (demoteForRecovery engine actor now) := by
  refine .inl (eachAccounted_of_records (fun staged hstaged ↦ ?_) fun type envelope hmem ↦
    accounted_demotion hall hmem)
  obtain ⟨attempt, -, rfl⟩ | ⟨old, -, new, -, rfl⟩ := demoteForRecovery_records hstaged
  · exact .inr (.inr (.inl rfl))
  · exact .inr (.inr (.inl rfl))

theorem enduring_advanceEpoch (h : Enduring origin engine.durability)
    (hall : AllAccounted engine.tables.envelopes) (epoch : FabricEpoch) (actor : ActorContext)
    (now : U64) (io : Io) :
    Enduring origin ((advanceEpoch engine epoch actor now).perform engine io).1.durability ∧
      AllAccounted ((advanceEpoch engine epoch actor now).perform engine io).1.tables.envelopes := by
  have hsection : sectionOf { engine } (.advanceEpoch epoch actor now) =
      some (once { engine } (advanceEpoch engine epoch actor now)) := rfl
  have hrecording : Recording engine (advanceEpoch engine epoch actor now) :=
    recording_of_sectionOf (s := { engine }) hall hsection
  refine ⟨enduring_perform h (admissible_of_plain fun entry hmem ↦ advanceEpoch_plain hmem)
    hrecording hall, ?_⟩
  obtain hsame | hinstalled := tables_perform (advanceEpoch engine epoch actor now) engine io
  · exact hsame ▸ hall
  · rw [hinstalled]
    exact installed_accounted (s := { engine }) hall hsection

theorem enduring_tailDropped {truncate : Bool} {result : JournalScanResult}
    (h : Enduring origin engine.durability) (hall : AllAccounted engine.tables.envelopes) :
    Enduring origin (tailDropped truncate result engine io).durability := by
  have hsnapshot : Admissible (buildSnapshotRecords engine.config engine.tables) :=
    fun _ ↦ snapshot_entries
  have hsane := sane_compactedFile hsnapshot (restores_snapshot hall)
  unfold tailDropped
  split
  · split
    · exact h
    · next journal hjournal =>
      have hcases := compactWith_cases (rfl : journal.compactWith
        (buildSnapshotRecords engine.config engine.tables) io = _)
      simp only
      generalize journal.compactWith (buildSnapshotRecords engine.config engine.tables) io = written
        at hcases
      obtain hsame | ⟨hshut, -, hfile⟩ | ⟨hclosed, hreplaced⟩ := hcases
      · rw [hsame, ← hjournal]
        exact h
      · obtain hsame | hreplaced := hfile
        · refine h.imp (fun hreliable ↦ ⟨?_, ?_⟩) fun ⟨htorn, htrailing⟩ ↦ ⟨htorn, ?_, ?_⟩
          · rintro _ ⟨⟩
            rw [hsame]
            exact hreliable.sane journal hjournal
          · exact .inr fun _ hother hopen ↦ by cases hother; rw [hshut] at hopen; cases hopen
          · rintro _ ⟨⟩
            rw [hsame]
            exact htrailing.behind journal hjournal
          · exact .inr fun _ hother hopen ↦ by cases hother; rw [hshut] at hopen; cases hopen
        · refine .inl ⟨?_, .inr fun _ hother hopen ↦ ?_⟩
          · rintro _ ⟨⟩
            rw [hreplaced]
            exact hsane
          · cases hother
            rw [hshut] at hopen
            cases hopen
      · refine .inl ⟨?_, .inr ?_⟩
        · rintro _ ⟨⟩
          rw [hreplaced]
          exact hsane
        · rintro _ ⟨⟩ -
          rw [hreplaced]
          exact stable_untorn.compacted hclosed trivial
  · exact h

variable (hok : (scanJournalFile file).ok = true) (hsane : Sane file)
  (hmisread : misreadIn file = [])

include hok hsane hmisread

theorem accounted_rebuilt : AllAccounted (rebuilt config file io).tables.envelopes := by
  rw [tables_rebuilt]
  unfold Demotion.replayed
  simp only
  rw [applySnapshotRecords_eq, recordsIn_of_ok hok]
  exact accounted_replayed hsane.restores hmisread allAccounted_empty

theorem enduring_recovered
    (h : recoverEngine config file demotedNs advancedNs io = .ok engine) :
    Enduring file engine.durability ∧ AllAccounted engine.tables.envelopes := by
  obtain ⟨-, -, -, rfl⟩ := recoverEngine_ok h
  have hbannered : Enduring file (bannered config file io).1.durability := by
    rw [bannered_eq]
    refine enduring_commitRecords (enduring_reopen hok hsane) (admissible_banner _ _)
      (restores_banner _ _ _) ?_
    rw [tables_bannered]
    exact allAccounted_empty
  have hrebuilt := @accounted_rebuilt file config io hok hsane hmisread
  have hrecording := recording_demotion (rebuiltActor config file io) demotedNs hrebuilt
  have hdemoted : Enduring file (demoted config file demotedNs io).1.durability :=
    enduring_perform (show Enduring file (rebuilt config file io).durability from hbannered)
      (admissible_of_plain fun entry hmem ↦ demoteForRecovery_plain hmem) hrecording hrebuilt
  have hall : AllAccounted (demoted config file demotedNs io).1.tables.envelopes := by
    obtain hsame | hinstalled := tables_perform (demotion config file demotedNs io)
      (rebuilt config file io) (bannered config file io).2
    · exact hsame ▸ hrebuilt
    · rw [demoted, hinstalled]
      exact allAccounted_installed hrebuilt fun type envelope hmem ↦ accounted_demotion hrebuilt hmem
  unfold advanced advancedOnRecovery
  split
  · exact enduring_advanceEpoch hdemoted hall _ _ _ _
  · exact ⟨hdemoted, hall⟩

end Recovered

end RateGovernor.Dynamics.Torn
