import Mathlib.Data.List.Induction
import RateGovernor.Dynamics.Transactions

namespace RateGovernor.Dynamics.Scanning

open Model.CheckedMath Model.Journal Foundation.ByteCodec Framing Commits Transactions

section Positions

def Begins (record : JournalRecord) : Prop := record.txnId ≠ 0 ∧ record.type = .txnBegin

def Commits (record : JournalRecord) : Prop := record.txnId ≠ 0 ∧ record.type = .txnCommit

def Delimits (record : JournalRecord) : Prop := Begins record ∨ Commits record

/-- The record belongs to a transaction and is neither its begin nor its commit record. -/
def Stages (record : JournalRecord) : Prop := record.txnId ≠ 0 ∧ ¬Delimits record

instance : DecidablePred Begins := fun _ ↦ inferInstanceAs (Decidable (_ ∧ _))
instance : DecidablePred Commits := fun _ ↦ inferInstanceAs (Decidable (_ ∧ _))
instance : DecidablePred Delimits := fun _ ↦ inferInstanceAs (Decidable (_ ∨ _))
instance : DecidablePred Stages := fun _ ↦ inferInstanceAs (Decidable (_ ∧ _))

variable {records : List JournalRecord} {record : JournalRecord} {b i : ℕ}
  {P closing : JournalRecord → Prop}

def At (records : List JournalRecord) (i : ℕ) (P : JournalRecord → Prop) : Prop :=
  ∃ record ∈ records[i]?, P record

instance [DecidablePred P] : Decidable (At records i P) :=
  inferInstanceAs (Decidable (∃ _ ∈ _, _))

/-- The transaction begun at the position is still open behind the last record. -/
def OpenSince (records : List JournalRecord) (b : ℕ) : Prop :=
  At records b Begins ∧ ∀ j < records.length, b < j → ¬At records j Delimits

instance : Decidable (OpenSince records b) := inferInstanceAs (Decidable (_ ∧ _))

/-- A data record that stands in a transaction the given kind of record closes. -/
def ClosedBy (closing : JournalRecord → Prop) (records : List JournalRecord) (i : ℕ) : Prop :=
  At records i Stages ∧ ∃ e < records.length, i < e ∧ At records e closing ∧
    ∃ b < i, OpenSince (records.take e) b

instance [DecidablePred closing] : Decidable (ClosedBy closing records i) :=
  inferInstanceAs (Decidable (_ ∧ _))

def SameTxn (records : List JournalRecord) (i j : ℕ) : Prop :=
  ∃ txn, At records i (·.txnId = txn) ∧ At records j (·.txnId = txn)

def PendingAt (records : List JournalRecord) (i : ℕ) : Prop :=
  At records i Stages ∧ ∃ b < i, OpenSince records b

theorem At.lt (h : At records i P) : i < records.length := by
  obtain ⟨record, hmem, -⟩ := h
  exact (List.getElem?_eq_some_iff.1 hmem).1

theorem At.mono {Q : JournalRecord → Prop} (h : At records i P) (himp : ∀ r, P r → Q r) :
    At records i Q := by
  obtain ⟨found, hmem, hP⟩ := h
  exact ⟨found, hmem, himp found hP⟩

theorem at_append : At (records ++ [record]) i P ↔
    At records i P ∨ i = records.length ∧ P record := by
  constructor
  · rintro ⟨found, hmem, hP⟩
    obtain hlt | hge := Nat.lt_or_ge i records.length
    · rw [List.getElem?_append_left hlt] at hmem
      exact .inl ⟨found, hmem, hP⟩
    · have hlast := (List.getElem?_eq_some_iff.1 hmem).1
      rw [List.length_append, List.length_singleton] at hlast
      obtain rfl : i = records.length := by omega
      rw [List.getElem?_concat_length] at hmem
      cases hmem
      exact .inr ⟨rfl, hP⟩
  · rintro (hat | ⟨rfl, hP⟩)
    · obtain ⟨found, hmem, hP⟩ := hat
      exact ⟨found, (List.getElem?_append_left (List.getElem?_eq_some_iff.1 hmem).1).trans hmem, hP⟩
    · exact ⟨record, List.getElem?_concat_length, hP⟩

theorem openSince_append : OpenSince (records ++ [record]) b ↔
    b = records.length ∧ Begins record ∨ OpenSince records b ∧ ¬Delimits record := by
  constructor
  · rintro ⟨hbegin, hnone⟩
    obtain hbegin | hlast := at_append.1 hbegin
    · refine .inr ⟨⟨hbegin, fun j hj hlt hat ↦ ?_⟩, fun hdelimits ↦ ?_⟩
      · exact hnone j (by rw [List.length_append]; omega) hlt (at_append.2 (.inl hat))
      · refine hnone records.length (by rw [List.length_append, List.length_singleton]; omega)
          hbegin.lt (at_append.2 (.inr ⟨rfl, hdelimits⟩))
    · exact .inl hlast
  · rintro (⟨rfl, hbegins⟩ | ⟨⟨hbegin, hnone⟩, hdelimits⟩)
    · refine ⟨at_append.2 (.inr ⟨rfl, hbegins⟩), fun j hj hlt ↦ ?_⟩
      rw [List.length_append, List.length_singleton] at hj
      omega
    · refine ⟨at_append.2 (.inl hbegin), fun j hj hlt hat ↦ ?_⟩
      obtain hat | ⟨-, hat⟩ := at_append.1 hat
      · exact hnone j hat.lt hlt hat
      · exact hdelimits hat

theorem closedBy_append : ClosedBy closing (records ++ [record]) i ↔
    ClosedBy closing records i ∨ closing record ∧ PendingAt records i := by
  constructor
  · rintro ⟨hstages, e, he, hlt, hcloses, b, hb, hopen⟩
    rw [List.length_append, List.length_singleton] at he
    have hbefore : At records i Stages := by
      obtain hbefore | ⟨rfl, -⟩ := at_append.1 hstages
      · exact hbefore
      · omega
    obtain hearlier | ⟨rfl, hlast⟩ := at_append.1 hcloses
    · rw [List.take_append_of_le_length (Nat.le_of_lt hearlier.lt)] at hopen
      exact .inl ⟨hbefore, e, hearlier.lt, hlt, hearlier, b, hb, hopen⟩
    · rw [List.take_left] at hopen
      exact .inr ⟨hlast, hbefore, b, hb, hopen⟩
  · rintro (⟨hstages, e, he, hlt, hcloses, b, hb, hopen⟩ | ⟨hcloses, hstages, b, hb, hopen⟩)
    · have htake : (records ++ [record]).take e = records.take e :=
        List.take_append_of_le_length (Nat.le_of_lt he)
      exact ⟨at_append.2 (.inl hstages), e, by rw [List.length_append]; omega, hlt,
        at_append.2 (.inl hcloses), b, hb, htake ▸ hopen⟩
    · refine ⟨at_append.2 (.inl hstages), records.length, ?_, hstages.lt,
        at_append.2 (.inr ⟨rfl, hcloses⟩), b, hb, ?_⟩
      · rw [List.length_append, List.length_singleton]
        omega
      · rwa [List.take_left]

theorem pendingAt_append : PendingAt (records ++ [record]) i ↔ ¬Delimits record ∧
    (PendingAt records i ∨ i = records.length ∧ Stages record ∧ ∃ b, OpenSince records b) := by
  constructor
  · rintro ⟨hstages, b, hb, hopen⟩
    have hle := hstages.lt
    rw [List.length_append, List.length_singleton] at hle
    obtain ⟨rfl, -⟩ | ⟨hopen, hdelimits⟩ := openSince_append.1 hopen
    · omega
    · refine ⟨hdelimits, ?_⟩
      obtain hearlier | ⟨rfl, hlast⟩ := at_append.1 hstages
      · exact .inl ⟨hearlier, b, hb, hopen⟩
      · exact .inr ⟨rfl, hlast, b, hopen⟩
  · rintro ⟨hdelimits, ⟨hstages, b, hb, hopen⟩ | ⟨rfl, hstages, b, hopen⟩⟩
    · exact ⟨at_append.2 (.inl hstages), b, hb, openSince_append.2 (.inr ⟨hopen, hdelimits⟩)⟩
    · exact ⟨at_append.2 (.inr ⟨rfl, hstages⟩), b, hopen.1.lt,
        openSince_append.2 (.inr ⟨hopen, hdelimits⟩)⟩

end Positions

section Tracing

/-- Where the records went that the scanner has gone over, by their positions. -/
structure Trace where
  pendingTxn : U64 := 0
  pending : List ℕ := []
  committed : List ℕ := []
  overtaken : List ℕ := []

/-- A begin record drops what is pending; a data record outside a transaction goes nowhere. -/
def Trace.accept (trace : Trace) (record : JournalRecord) (i : ℕ) : Trace :=
  if record.txnId = 0 then { trace with committed := trace.committed ++ [i] }
  else if record.type = .txnBegin then
    { trace with
      pendingTxn := record.txnId, pending := [], overtaken := trace.overtaken ++ trace.pending }
  else if record.type = .txnCommit then
    { trace with pendingTxn := 0, pending := [], committed := trace.committed ++ trace.pending }
  else if trace.pendingTxn = 0 then trace
  else { trace with pending := trace.pending ++ [i] }

def traceFrom (trace : Trace) (start : ℕ) : List JournalRecord → Trace
  | [] => trace
  | record :: records => traceFrom (trace.accept record start) (start + 1) records

def traceOf (records : List JournalRecord) : Trace := traceFrom {} 0 records

variable {records : List JournalRecord} {record : JournalRecord} {scan scan' : Scan}
  {trace : Trace}

theorem traceFrom_append (start : ℕ) (more : List JournalRecord) :
    traceFrom trace start (records ++ more) =
      traceFrom (traceFrom trace start records) (start + records.length) more := by
  induction records generalizing trace start with
  | nil => rfl
  | cons record records ih =>
    rw [List.cons_append, traceFrom, traceFrom, ih, List.length_cons, Nat.add_right_comm,
      Nat.add_assoc]

theorem traceOf_append : traceOf (records ++ [record]) =
    (traceOf records).accept record records.length := by
  rw [traceOf, traceFrom_append, Nat.zero_add]
  rfl

/-- The trace agrees with the scanner on where each record went. -/
structure Traces (records : List JournalRecord) (scan : Scan) (trace : Trace) : Prop where
  pendingTxn : trace.pendingTxn = scan.pendingTxn
  pending : scan.pending.map some = trace.pending.map (records[·]?)
  committed : scan.result.committed.map some = trace.committed.map (records[·]?)
  mem_pending : ∀ i, i ∈ trace.pending ↔ PendingAt records i
  mem_committed : ∀ i, i ∈ trace.committed ↔
    At records i (·.txnId = 0) ∨ ClosedBy Commits records i
  mem_overtaken : ∀ i, i ∈ trace.overtaken ↔ ClosedBy Begins records i
  distinct : (trace.overtaken ++ trace.pending).Nodup
  opened : ∀ b, OpenSince records b → At records b (·.txnId = scan.pendingTxn)
  inside : scan.pendingTxn ≠ 0 ↔ ∃ b, OpenSince records b
  matched : ∀ e, At records e Commits → ∀ b, OpenSince (records.take e) b → SameTxn records b e
  counted : scan.result.discardedUncommittedRecords.toNat + scan.result.committed.length +
    scan.pending.length + trace.overtaken.length = records.countP (¬Delimits ·)

theorem map_getElem?_append {positions : List ℕ} (h : ∀ i ∈ positions, i < records.length) :
    positions.map ((records ++ [record])[·]?) = positions.map (records[·]?) :=
  List.map_congr_left fun i hi ↦ List.getElem?_append_left (h i hi)

theorem Traces.pending_lt (h : Traces records scan trace) : ∀ i ∈ trace.pending, i < records.length :=
  fun i hi ↦ ((h.mem_pending i).1 hi).1.lt

theorem Traces.committed_lt (h : Traces records scan trace) :
    ∀ i ∈ trace.committed, i < records.length := by
  intro i hi
  obtain hzero | hclosed := (h.mem_committed i).1 hi
  · exact hzero.lt
  · exact hclosed.1.lt

/-- What accepting a record does to what is pending, committed and discarded. -/
inductive Accepted (scan : Scan) (record : JournalRecord) (scan' : Scan) : Prop
  | bare (id : record.txnId = 0) (pendingTxn : scan'.pendingTxn = scan.pendingTxn)
      (pending : scan'.pending = scan.pending)
      (committed : scan'.result.committed = scan.result.committed ++ [record])
      (discarded : scan'.result.discardedUncommittedRecords =
        scan.result.discardedUncommittedRecords)
  | begins (begins : Begins record) (pendingTxn : scan'.pendingTxn = record.txnId)
      (pending : scan'.pending = [])
      (committed : scan'.result.committed = scan.result.committed)
      (discarded : scan'.result.discardedUncommittedRecords =
        scan.result.discardedUncommittedRecords)
  | commits (commits : Commits record) (own : record.txnId = scan.pendingTxn)
      (pendingTxn : scan'.pendingTxn = 0) (pending : scan'.pending = [])
      (committed : scan'.result.committed = scan.result.committed ++ scan.pending)
      (discarded : scan'.result.discardedUncommittedRecords =
        scan.result.discardedUncommittedRecords)
  | outside (stages : Stages record) (idle : scan.pendingTxn = 0)
      (pendingTxn : scan'.pendingTxn = scan.pendingTxn) (pending : scan'.pending = scan.pending)
      (committed : scan'.result.committed = scan.result.committed)
      (discarded : scan'.result.discardedUncommittedRecords =
        scan.result.discardedUncommittedRecords + 1)
  | staged (stages : Stages record) (busy : scan.pendingTxn ≠ 0)
      (pendingTxn : scan'.pendingTxn = scan.pendingTxn)
      (pending : scan'.pending = scan.pending ++ [record])
      (committed : scan'.result.committed = scan.result.committed)
      (discarded : scan'.result.discardedUncommittedRecords =
        scan.result.discardedUncommittedRecords)

theorem accepted_of_accept (h : scan.accept record = some scan') : Accepted scan record scan' := by
  unfold Scan.accept at h
  simp only at h
  split at h
  · next hid =>
    cases h
    exact .bare hid rfl rfl rfl rfl
  · next hid =>
    split at h
    · next htype =>
      cases h
      exact .begins ⟨hid, htype⟩ rfl rfl rfl rfl
    · next hbegin =>
      split at h
      · next htype =>
        split at h
        · cases h
        · next hown =>
          cases h
          exact .commits ⟨hid, htype⟩ (not_not.1 hown) rfl rfl rfl rfl
      · next hcommit =>
        have hstages : Stages record := by
          refine ⟨hid, ?_⟩
          rintro (⟨-, htype⟩ | ⟨-, htype⟩)
          · exact hbegin htype
          · exact hcommit htype
        split at h
        · next hidle =>
          cases h
          exact .outside hstages hidle rfl rfl rfl rfl
        · next hbusy =>
          cases h
          exact .staged hstages hbusy rfl rfl rfl rfl

theorem not_delimits_of_bare (h : record.txnId = 0) : ¬Delimits record := by
  rintro (⟨hid, -⟩ | ⟨hid, -⟩) <;> exact hid h

theorem not_commits_of_begins (h : Begins record) : ¬Commits record := by
  rintro ⟨-, hcommit⟩
  rw [h.2] at hcommit
  cases hcommit

theorem Traces.stay (h : Traces records scan trace) (hdelimits : ¬Delimits record)
    (hpendingTxn : scan'.pendingTxn = scan.pendingTxn) :
    (∀ b, OpenSince (records ++ [record]) b →
      At (records ++ [record]) b (·.txnId = scan'.pendingTxn)) ∧
    (scan'.pendingTxn ≠ 0 ↔ ∃ b, OpenSince (records ++ [record]) b) := by
  have hopen : ∀ b, OpenSince (records ++ [record]) b ↔ OpenSince records b := by
    intro b
    rw [openSince_append]
    constructor
    · rintro (⟨-, hbegins⟩ | ⟨hopen, -⟩)
      · exact absurd (.inl hbegins) hdelimits
      · exact hopen
    · exact fun hopen ↦ .inr ⟨hopen, hdelimits⟩
  simp only [hopen, hpendingTxn]
  exact ⟨fun b hopen ↦ at_append.2 (.inl (h.opened b hopen)), h.inside⟩

theorem Traces.matched_append (h : Traces records scan trace)
    (hown : Commits record → record.txnId = scan.pendingTxn) (e : ℕ)
    (hcommit : At (records ++ [record]) e Commits) (b : ℕ)
    (hopen : OpenSince ((records ++ [record]).take e) b) : SameTxn (records ++ [record]) b e := by
  obtain hearlier | ⟨rfl, hlast⟩ := at_append.1 hcommit
  · rw [List.take_append_of_le_length (Nat.le_of_lt hearlier.lt)] at hopen
    obtain ⟨txn, hbegin, hend⟩ := h.matched e hearlier b hopen
    exact ⟨txn, at_append.2 (.inl hbegin), at_append.2 (.inl hend)⟩
  · rw [List.take_left] at hopen
    exact ⟨scan.pendingTxn, at_append.2 (.inl (h.opened b hopen)),
      at_append.2 (.inr ⟨rfl, hown hlast⟩)⟩

theorem bare_append (hid : record.txnId ≠ 0) (i : ℕ) :
    At (records ++ [record]) i (·.txnId = 0) ↔ At records i (·.txnId = 0) :=
  at_append.trans (or_iff_left fun hlast ↦ hid hlast.2)

theorem closedBy_stay (hdelimits : ¬Delimits record) (i : ℕ) :
    (ClosedBy Begins (records ++ [record]) i ↔ ClosedBy Begins records i) ∧
      (ClosedBy Commits (records ++ [record]) i ↔ ClosedBy Commits records i) := by
  rw [closedBy_append, closedBy_append]
  refine ⟨or_iff_left fun hcloses ↦ hdelimits (.inl hcloses.1), or_iff_left fun hcloses ↦
    hdelimits (.inr hcloses.1)⟩

theorem countP_append_of_stay (hdelimits : ¬Delimits record) :
    (records ++ [record]).countP (¬Delimits ·) = records.countP (¬Delimits ·) + 1 := by
  rw [List.countP_append, List.countP_singleton, if_pos (decide_eq_true hdelimits)]

theorem countP_append_of_delimits (hdelimits : Delimits record) :
    (records ++ [record]).countP (¬Delimits ·) = records.countP (¬Delimits ·) := by
  rw [List.countP_append, List.countP_singleton, if_neg (by simpa using hdelimits), Nat.add_zero]

section Steps

variable (h : Traces records scan trace)

include h

theorem Traces.bare (hid : record.txnId = 0) (hpendingTxn : scan'.pendingTxn = scan.pendingTxn)
    (hpending : scan'.pending = scan.pending)
    (hcommitted : scan'.result.committed = scan.result.committed ++ [record])
    (hdiscarded : scan'.result.discardedUncommittedRecords =
      scan.result.discardedUncommittedRecords) :
    Traces (records ++ [record]) scan' (trace.accept record records.length) := by
  have hdelimits := not_delimits_of_bare hid
  obtain ⟨hopened, hinside⟩ := h.stay hdelimits hpendingTxn
  simp only [Trace.accept, if_pos hid]
  refine ⟨h.pendingTxn.trans hpendingTxn.symm, ?_, ?_, fun i ↦ ?_, fun i ↦ ?_, fun i ↦ ?_,
    h.distinct, hopened, hinside,
    h.matched_append fun hcommits ↦ absurd (.inr hcommits) hdelimits, ?_⟩
  · rw [hpending, map_getElem?_append h.pending_lt]
    exact h.pending
  · rw [hcommitted, List.map_append, List.map_append, map_getElem?_append h.committed_lt,
      h.committed, List.map_singleton, List.map_singleton, List.getElem?_concat_length]
  · rw [h.mem_pending, pendingAt_append]
    constructor
    · exact fun hpending ↦ ⟨hdelimits, .inl hpending⟩
    · rintro ⟨-, hpending | ⟨-, hstages, -⟩⟩
      · exact hpending
      · exact absurd hid hstages.1
  · rw [List.mem_append, h.mem_committed, List.mem_singleton, (closedBy_stay hdelimits i).2,
      at_append, or_right_comm, and_iff_left hid]
  · rw [h.mem_overtaken, (closedBy_stay hdelimits i).1]
  · have hcounted := h.counted
    simp only [hpending, hcommitted, hdiscarded, countP_append_of_stay hdelimits,
      List.length_append, List.length_singleton]
    omega

theorem Traces.begins (hbegins : Begins record) (hpendingTxn : scan'.pendingTxn = record.txnId)
    (hpending : scan'.pending = []) (hcommitted : scan'.result.committed = scan.result.committed)
    (hdiscarded : scan'.result.discardedUncommittedRecords =
      scan.result.discardedUncommittedRecords) :
    Traces (records ++ [record]) scan' (trace.accept record records.length) := by
  have hopen : ∀ b, OpenSince (records ++ [record]) b ↔ b = records.length := by
    intro b
    rw [openSince_append]
    constructor
    · rintro (⟨rfl, -⟩ | ⟨-, hdelimits⟩)
      · rfl
      · exact absurd (.inl hbegins) hdelimits
    · exact fun hb ↦ .inl ⟨hb, hbegins⟩
  simp only [Trace.accept, if_neg hbegins.1, if_pos hbegins.2]
  refine ⟨hpendingTxn.symm, by rw [hpending]; rfl, ?_, fun i ↦ ?_, fun i ↦ ?_, fun i ↦ ?_,
    ?_, fun b hb ↦ ?_, ?_,
    h.matched_append fun hcommits ↦ absurd hcommits (not_commits_of_begins hbegins), ?_⟩
  · rw [hcommitted, map_getElem?_append h.committed_lt]
    exact h.committed
  · rw [pendingAt_append]
    constructor
    · exact fun hnil ↦ absurd hnil List.not_mem_nil
    · exact fun hpending ↦ absurd (.inl hbegins) hpending.1
  · have hsame : ClosedBy Commits (records ++ [record]) i ↔ ClosedBy Commits records i :=
      closedBy_append.trans (or_iff_left fun hcloses ↦ not_commits_of_begins hbegins hcloses.1)
    rw [h.mem_committed, hsame, bare_append hbegins.1]
  · rw [List.mem_append, h.mem_overtaken, h.mem_pending, closedBy_append, and_iff_right hbegins]
  · rw [List.append_nil]
    exact h.distinct
  · obtain rfl := (hopen b).1 hb
    exact at_append.2 (.inr ⟨rfl, hpendingTxn.symm⟩)
  · rw [hpendingTxn]
    exact iff_of_true hbegins.1 ⟨records.length, (hopen _).2 rfl⟩
  · have hlength := congrArg List.length h.pending
    rw [List.length_map, List.length_map] at hlength
    rw [hpending, hcommitted, hdiscarded, countP_append_of_delimits (.inl hbegins),
      List.length_append, List.length_nil, ← h.counted]
    omega

theorem Traces.commits (hcommits : Commits record) (hown : record.txnId = scan.pendingTxn)
    (hpendingTxn : scan'.pendingTxn = 0)
    (hpending : scan'.pending = [])
    (hcommitted : scan'.result.committed = scan.result.committed ++ scan.pending)
    (hdiscarded : scan'.result.discardedUncommittedRecords =
      scan.result.discardedUncommittedRecords) :
    Traces (records ++ [record]) scan' (trace.accept record records.length) := by
  have hbegins : ¬Begins record := fun hbegins ↦ not_commits_of_begins hbegins hcommits
  have hopen : ∀ b, ¬OpenSince (records ++ [record]) b := by
    intro b hopen
    obtain ⟨-, hbegin⟩ | ⟨-, hdelimits⟩ := openSince_append.1 hopen
    · exact hbegins hbegin
    · exact hdelimits (.inr hcommits)
  have htype : record.type ≠ .txnBegin := fun htype ↦ hbegins ⟨hcommits.1, htype⟩
  simp only [Trace.accept, if_neg hcommits.1, if_neg htype, if_pos hcommits.2]
  refine ⟨hpendingTxn.symm, by rw [hpending]; rfl, ?_, fun i ↦ ?_, fun i ↦ ?_, fun i ↦ ?_,
    ?_, fun b hb ↦ absurd hb (hopen b), ?_, h.matched_append fun _ ↦ hown, ?_⟩
  · rw [hcommitted, List.map_append, List.map_append, map_getElem?_append h.committed_lt,
      map_getElem?_append h.pending_lt, h.committed, h.pending]
  · rw [pendingAt_append]
    constructor
    · exact fun hnil ↦ absurd hnil List.not_mem_nil
    · exact fun hpending ↦ absurd (.inr hcommits) hpending.1
  · rw [List.mem_append, h.mem_committed, h.mem_pending, closedBy_append,
      bare_append hcommits.1, and_iff_right hcommits, or_assoc]
  · have hsame : ClosedBy Begins (records ++ [record]) i ↔ ClosedBy Begins records i :=
      closedBy_append.trans (or_iff_left fun hcloses ↦ hbegins hcloses.1)
    rw [h.mem_overtaken, hsame]
  · rw [List.append_nil]
    exact (List.nodup_append.1 h.distinct).1
  · rw [hpendingTxn]
    exact iff_of_false (not_not.2 rfl) fun ⟨b, hb⟩ ↦ hopen b hb
  · have hcounted := h.counted
    simp only [hpending, hcommitted, hdiscarded, countP_append_of_delimits (.inr hcommits),
      List.length_append, List.length_nil]
    omega

theorem Traces.outside (hstages : Stages record) (hidle : scan.pendingTxn = 0)
    (hroom : records.length + 1 < 2 ^ 64) (hpendingTxn : scan'.pendingTxn = scan.pendingTxn)
    (hpending : scan'.pending = scan.pending)
    (hcommitted : scan'.result.committed = scan.result.committed)
    (hdiscarded : scan'.result.discardedUncommittedRecords =
      scan.result.discardedUncommittedRecords + 1) :
    Traces (records ++ [record]) scan' (trace.accept record records.length) := by
  obtain ⟨hid, hdelimits⟩ := hstages
  obtain ⟨hopened, hinside⟩ := h.stay hdelimits hpendingTxn
  have hbegin : record.type ≠ .txnBegin := fun htype ↦ hdelimits (.inl ⟨hid, htype⟩)
  have hcommit : record.type ≠ .txnCommit := fun htype ↦ hdelimits (.inr ⟨hid, htype⟩)
  simp only [Trace.accept, if_neg hid, if_neg hbegin, if_neg hcommit, h.pendingTxn, if_pos hidle]
  refine ⟨h.pendingTxn.trans hpendingTxn.symm, ?_, ?_, fun i ↦ ?_, fun i ↦ ?_, fun i ↦ ?_,
    h.distinct, hopened, hinside,
    h.matched_append fun hcommits ↦ absurd (.inr hcommits) hdelimits, ?_⟩
  · rw [hpending, map_getElem?_append h.pending_lt]
    exact h.pending
  · rw [hcommitted, map_getElem?_append h.committed_lt]
    exact h.committed
  · rw [h.mem_pending, pendingAt_append]
    constructor
    · exact fun hpending ↦ ⟨hdelimits, .inl hpending⟩
    · rintro ⟨-, hpending | ⟨-, -, hbusy⟩⟩
      · exact hpending
      · exact absurd hidle (h.inside.2 hbusy)
  · rw [h.mem_committed, (closedBy_stay hdelimits i).2, bare_append hid]
  · rw [h.mem_overtaken, (closedBy_stay hdelimits i).1]
  · have hbound : scan.result.discardedUncommittedRecords.toNat ≤ records.length := by
      have hcount := @List.countP_le_length _ (fun r ↦ decide ¬Delimits r) records
      have hcounted := h.counted
      omega
    have hsucc : (scan.result.discardedUncommittedRecords + 1).toNat =
        scan.result.discardedUncommittedRecords.toNat + 1 := by
      rw [UInt64.toNat_add]
      exact Nat.mod_eq_of_lt (by simp only [UInt64.toNat_one]; omega)
    rw [hpending, hcommitted, hdiscarded, countP_append_of_stay hdelimits, hsucc, ← h.counted]
    omega

theorem Traces.staged (hstages : Stages record) (hbusy : scan.pendingTxn ≠ 0)
    (hpendingTxn : scan'.pendingTxn = scan.pendingTxn)
    (hpending : scan'.pending = scan.pending ++ [record])
    (hcommitted : scan'.result.committed = scan.result.committed)
    (hdiscarded : scan'.result.discardedUncommittedRecords =
      scan.result.discardedUncommittedRecords) :
    Traces (records ++ [record]) scan' (trace.accept record records.length) := by
  obtain ⟨hid, hdelimits⟩ := id hstages
  obtain ⟨hopened, hinside⟩ := h.stay hdelimits hpendingTxn
  have hbegin : record.type ≠ .txnBegin := fun htype ↦ hdelimits (.inl ⟨hid, htype⟩)
  have hcommit : record.type ≠ .txnCommit := fun htype ↦ hdelimits (.inr ⟨hid, htype⟩)
  simp only [Trace.accept, if_neg hid, if_neg hbegin, if_neg hcommit, h.pendingTxn, if_neg hbusy]
  refine ⟨hpendingTxn.symm, ?_, ?_, fun i ↦ ?_, fun i ↦ ?_, fun i ↦ ?_,
    ?_, hopened, hinside, h.matched_append fun hcommits ↦ absurd (.inr hcommits) hdelimits, ?_⟩
  · rw [hpending, List.map_append, List.map_append, map_getElem?_append h.pending_lt, h.pending,
      List.map_singleton, List.map_singleton, List.getElem?_concat_length]
  · rw [hcommitted, map_getElem?_append h.committed_lt]
    exact h.committed
  · rw [List.mem_append, List.mem_singleton, h.mem_pending, pendingAt_append,
      and_iff_right hdelimits, and_iff_left ⟨hstages, h.inside.1 hbusy⟩]
  · rw [h.mem_committed, (closedBy_stay hdelimits i).2, bare_append hid]
  · rw [h.mem_overtaken, (closedBy_stay hdelimits i).1]
  · rw [← List.append_assoc, List.nodup_append]
    refine ⟨h.distinct, List.nodup_cons.2 ⟨List.not_mem_nil, .nil⟩, fun i hi j hj hij ↦ ?_⟩
    obtain rfl := List.mem_singleton.1 hj
    subst hij
    obtain hovertaken | hpending := List.mem_append.1 hi
    · exact Nat.lt_irrefl _ ((h.mem_overtaken _).1 hovertaken).1.lt
    · exact Nat.lt_irrefl _ (h.pending_lt _ hpending)
  · have hcounted := h.counted
    simp only [hpending, hcommitted, hdiscarded, countP_append_of_stay hdelimits,
      List.length_append, List.length_singleton]
    omega

theorem traces_step (haccept : scan.accept record = some scan')
    (hroom : records.length + 1 < 2 ^ 64) :
    Traces (records ++ [record]) scan' (trace.accept record records.length) := by
  cases accepted_of_accept haccept with
  | bare hid hpendingTxn hpending hcommitted hdiscarded =>
    exact h.bare hid hpendingTxn hpending hcommitted hdiscarded
  | begins hbegins hpendingTxn hpending hcommitted hdiscarded =>
    exact h.begins hbegins hpendingTxn hpending hcommitted hdiscarded
  | commits hcommits hown hpendingTxn hpending hcommitted hdiscarded =>
    exact h.commits hcommits hown hpendingTxn hpending hcommitted hdiscarded
  | outside hstages hidle hpendingTxn hpending hcommitted hdiscarded =>
    exact h.outside hstages hidle hroom hpendingTxn hpending hcommitted hdiscarded
  | staged hstages hbusy hpendingTxn hpending hcommitted hdiscarded =>
    exact h.staged hstages hbusy hpendingTxn hpending hcommitted hdiscarded

end Steps

theorem traces_nil : Traces [] {} {} where
  pendingTxn := rfl
  pending := rfl
  committed := rfl
  mem_pending i := iff_of_false List.not_mem_nil fun h ↦ absurd h.1.lt (Nat.not_lt_zero i)
  mem_committed i := by
    refine iff_of_false List.not_mem_nil ?_
    rintro (hzero | hclosed)
    · exact absurd hzero.lt (Nat.not_lt_zero i)
    · exact absurd hclosed.1.lt (Nat.not_lt_zero i)
  mem_overtaken i := iff_of_false List.not_mem_nil fun h ↦ absurd h.1.lt (Nat.not_lt_zero i)
  distinct := List.nodup_nil
  opened b h := absurd h.1.lt (Nat.not_lt_zero b)
  inside := iff_of_false (not_not.2 rfl) fun ⟨b, h⟩ ↦ absurd h.1.lt (Nat.not_lt_zero b)
  matched e h := absurd h.lt (Nat.not_lt_zero e)
  counted := rfl

theorem traces_of_accepted (haccept : acceptAll {} records = some scan)
    (hroom : records.length < 2 ^ 64) : Traces records scan (traceOf records) := by
  induction records using List.reverseRecOn generalizing scan with
  | nil =>
    cases haccept
    exact traces_nil
  | append_singleton records record ih =>
    rw [acceptAll_append] at haccept
    obtain ⟨mid, hmid, hlast⟩ := Option.bind_eq_some_iff.1 haccept
    obtain ⟨next, hnext, hdone⟩ := Option.bind_eq_some_iff.1 hlast
    cases hdone
    rw [List.length_append, List.length_singleton] at hroom
    rw [traceOf_append]
    exact traces_step (ih hmid (by omega)) hnext hroom

end Tracing

section Files

/-- The records the bytes begin with, up to the first that cannot be decoded. -/
def intactRecords : ℕ → Bytes → List JournalRecord
  | 0, _ => []
  | fuel + 1, bytes =>
    if bytes = [] then []
    else match decodeJournalRecord bytes kScanPayloadBound with
      | .error _ => []
      | .ok (record, consumed) => record :: intactRecords fuel (bytes.drop consumed)

def recordsOf (file : Bytes) : List JournalRecord := intactRecords file.length file

variable {file bytes : Bytes} {scan : Scan} {fuel : ℕ}

theorem length_intactRecords_le (fuel : ℕ) (bytes : Bytes) :
    (intactRecords fuel bytes).length ≤ fuel := by
  induction fuel generalizing bytes with
  | zero => exact Nat.le_refl _
  | succ fuel ih =>
    simp only [intactRecords]
    split
    · exact Nat.zero_le _
    · split
      · exact Nat.zero_le _
      · exact Nat.succ_le_succ (ih _)

theorem intactRecords_frames {records : List JournalRecord} (hfits : ∀ record ∈ records, Fits record)
    (hfuel : (records.flatMap frame).length ≤ fuel) :
    intactRecords fuel (records.flatMap frame) = records := by
  induction records generalizing fuel with
  | nil => cases fuel <;> rfl
  | cons record records ih =>
    have hne : frame record ++ records.flatMap frame ≠ [] :=
      fun hnil ↦ frame_ne_nil record (List.append_eq_nil_iff.1 hnil).1
    have hpos := List.length_pos_iff.2 (frame_ne_nil record)
    rw [List.flatMap_cons, List.length_append] at hfuel
    obtain ⟨fuel, rfl⟩ : ∃ more, fuel = more + 1 := ⟨fuel - 1, by omega⟩
    rw [List.flatMap_cons, intactRecords, if_neg hne,
      decode_frame (hfits record List.mem_cons_self)]
    simp only [List.drop_left]
    rw [ih (fun other hmem ↦ hfits other (List.mem_cons_of_mem _ hmem)) (by omega)]

theorem recordsOf_frames {records : List JournalRecord} (hfits : ∀ record ∈ records, Fits record) :
    recordsOf (records.flatMap frame) = records :=
  intactRecords_frames hfits (Nat.le_refl _)

theorem scan_frames {records : List JournalRecord} (hfits : ∀ record ∈ records, Fits record)
    (hsize : bodySize (records.map content) ≤ kJournalMaxScanBytes)
    (haccept : acceptAll {} records = some scan) :
    scanJournalFile (records.flatMap frame) = scan.finish := by
  refine scanJournalFile_of_clean (clean_nil.frames hfits haccept) ?_
  rw [flatMap_frame_length]
  exact hsize

/-- A scan that is not rejected has accepted all the records, and may end in a torn one. -/
theorem acceptAll_intactRecords
    (hstatus : (scanLoop fuel bytes scan).result.status = .ok ∨
      (scanLoop fuel bytes scan).result.status = .truncated) :
    ∃ scan', acceptAll scan (intactRecords fuel bytes) = some scan' ∧
      (scanLoop fuel bytes scan = scan' ∨ ∃ left, scanLoop fuel bytes scan = scan'.truncate left) := by
  induction fuel generalizing bytes scan with
  | zero => exact ⟨scan, rfl, .inl rfl⟩
  | succ fuel ih =>
    by_cases hbytes : bytes = []
    · simp only [intactRecords, scanLoop, if_pos hbytes]
      exact ⟨scan, rfl, .inl rfl⟩
    · simp only [intactRecords, scanLoop, if_neg hbytes] at hstatus ⊢
      cases hdecode : decodeJournalRecord bytes kScanPayloadBound with
      | error status =>
        obtain rfl | ⟨hok, htruncated⟩ := decode_error hdecode
        · exact ⟨scan, rfl, .inr ⟨_, rfl⟩⟩
        · exfalso
          have hrejected : status = .ok ∨ status = .truncated := by
            cases status with
            | truncated => exact .inr rfl
            | _ => simpa only [hdecode, Scan.reject] using hstatus
          exact hrejected.elim hok htruncated
      | ok decoded =>
        obtain ⟨record, consumed⟩ := decoded
        simp only [hdecode] at hstatus ⊢
        cases haccept : scan.accept record with
        | none =>
          simp only [haccept, Scan.reject] at hstatus
          exact absurd hstatus (by decide)
        | some next =>
          simp only [haccept] at hstatus ⊢
          obtain ⟨scan', hall, hend⟩ := ih hstatus
          refine ⟨scan', ?_, hend⟩
          rw [acceptAll, haccept]
          exact hall

theorem discarded_finish (scan : Scan) : scan.finish.discardedUncommittedRecords =
    scan.result.discardedUncommittedRecords + UInt64.ofNat scan.pending.length := by
  unfold Scan.finish
  by_cases hpending : scan.pending = []
  · simp only [hpending]
    exact (UInt64.add_zero _).symm
  · simp only [if_neg hpending]

/-- What the scan of a file reports is what the trace of its records says. -/
theorem traces_of_ok (hok : (scanJournalFile file).ok = true) :
    ∃ scan, Traces (recordsOf file) scan (traceOf (recordsOf file)) ∧
      (recordsOf file).length < 2 ^ 64 ∧
      (scanJournalFile file).committed = scan.result.committed ∧
      (scanJournalFile file).discardedUncommittedRecords =
        scan.result.discardedUncommittedRecords + UInt64.ofNat scan.pending.length := by
  unfold scanJournalFile at hok ⊢
  split at hok
  · cases hok
  · next hsize =>
    rw [if_neg hsize]
    obtain ⟨-, -, hcommitted, hstatus⟩ := finish_tail (scanLoop file.length file {})
    obtain ⟨scan, haccept, hend⟩ := acceptAll_intactRecords (hstatus.1 hok)
    have hroom : (recordsOf file).length < 2 ^ 64 := by
      have hle := length_intactRecords_le file.length file
      simp only [kJournalMaxScanBytes] at hsize
      unfold recordsOf
      omega
    refine ⟨scan, traces_of_accepted haccept hroom, hroom, ?_, ?_⟩
    · rw [hcommitted]
      obtain hend | ⟨left, hend⟩ := hend
      · rw [hend]
      · rw [hend]
        rfl
    · rw [discarded_finish]
      obtain hend | ⟨left, hend⟩ := hend
      · rw [hend]
      · rw [hend]
        rfl

def sampleRecord (type : JournalRecordType) (txn : U64) : JournalRecord :=
  { type, sequence := 1, txnId := txn, payload := [] }

theorem fits_of_bare {records : List JournalRecord}
    (h : ∀ record ∈ records, record.payload = []) : ∀ record ∈ records, Fits record := by
  intro record hmem
  rw [Fits, h record hmem]
  exact Nat.zero_le _

end Files

end RateGovernor.Dynamics.Scanning
