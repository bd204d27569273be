import RateGovernor.Model.Journal

namespace RateGovernor.Dynamics.Framing

open Model.CheckedMath Model.Journal Foundation.ByteCodec

variable {record : JournalRecord} {bytes rest : Bytes} {scan scan' : Scan}

section Frame

def frame (record : JournalRecord) : Bytes :=
  [encodeHeaderBody record, putU32 (recordCrc (encodeHeaderBody record) record.payload),
    record.payload].flatten

def headerOf (record : JournalRecord) : RecordHeader where
  magic := kJournalRecordMagic
  version := kJournalFormatVersion
  rawType := record.type.code
  flags := 0
  sequence := record.sequence
  txnId := record.txnId
  payloadLen := UInt32.ofNat record.payload.length
  storedCrc := recordCrc (encodeHeaderBody record) record.payload

def encodeHeader (record : JournalRecord) : Bytes :=
  encodeHeaderBody record ++ putU32 (recordCrc (encodeHeaderBody record) record.payload)

theorem frame_eq (record : JournalRecord) : frame record = encodeHeader record ++ record.payload := by
  simp only [frame, encodeHeader, List.flatten_cons, List.flatten_nil, List.append_nil,
    List.append_assoc]

@[simp] theorem encodeHeaderBody_length (record : JournalRecord) :
    (encodeHeaderBody record).length = 32 := by
  simp only [encodeHeaderBody, List.length_flatten, List.map_cons, List.map_nil, putU32_length,
    putU16_length, putU64_length, List.sum_cons, List.sum_nil, Nat.reduceAdd]

@[simp] theorem encodeHeader_length (record : JournalRecord) :
    (encodeHeader record).length = kJournalRecordHeaderSize := by
  simp only [encodeHeader, List.length_append, encodeHeaderBody_length, putU32_length]
  rfl

theorem frame_length (record : JournalRecord) :
    (frame record).length = kJournalRecordHeaderSize + record.payload.length := by
  rw [frame_eq, List.length_append, encodeHeader_length]

theorem encodeJournalRecord_eq {bound : ℕ} (h : encodeJournalRecord record bound ≠ []) :
    encodeJournalRecord record bound = frame record ∧ record.payload.length ≤ bound := by
  unfold encodeJournalRecord at h ⊢
  split at h
  · exact absurd rfl h
  · next hfits =>
    simp only [Bool.or_eq_true, decide_eq_true_eq, not_or, Nat.not_lt] at hfits
    exact ⟨if_neg (by simpa using hfits), hfits.1⟩

theorem decodes_header (record : JournalRecord) :
    Decodes readHeader (encodeHeader record) (headerOf record) := by
  have hfields : encodeHeader record =
      [putU32 kJournalRecordMagic, putU16 kJournalFormatVersion, putU16 record.type.code, putU32 0,
        putU64 record.sequence, putU64 record.txnId,
        putU32 (UInt32.ofNat record.payload.length),
        putU32 (recordCrc (encodeHeaderBody record) record.payload)].flatten := by
    simp only [encodeHeader, encodeHeaderBody, List.flatten_cons, List.flatten_nil,
      List.append_nil, List.append_assoc]
  rw [hfields]
  refine (decodes_u32 _).field ?_
  iterate 2 refine (decodes_u16 _).field ?_
  refine (decodes_u32 _).field ?_
  iterate 2 refine (decodes_u64 _).field ?_
  iterate 2 refine (decodes_u32 _).field ?_
  exact .pure _

theorem extends_readHeader : Extends readHeader := by
  refine extends_u32.bind fun _ ↦ extends_u16.bind fun _ ↦ extends_u16.bind fun _ ↦ ?_
  refine extends_u32.bind fun _ ↦ extends_u64.bind fun _ ↦ extends_u64.bind fun _ ↦ ?_
  exact extends_u32.bind fun _ ↦ extends_u32.bind fun _ ↦ .pure _

def Fits (record : JournalRecord) : Prop := record.payload.length ≤ kScanPayloadBound

theorem payloadLen_toNat (h : Fits record) :
    (UInt32.ofNat record.payload.length).toNat = record.payload.length := by
  refine UInt32.toNat_ofNat_of_lt' ?_
  simp only [Fits, kScanPayloadBound] at h
  simp only [UInt32.size]
  omega

theorem decode_header (h : Fits record) (bytes : Bytes) :
    decodeJournalRecord (encodeHeader record ++ bytes) kScanPayloadBound =
      if bytes.length < record.payload.length then .error .truncated
      else if recordCrc (encodeHeaderBody record) (bytes.take record.payload.length) ≠
          recordCrc (encodeHeaderBody record) record.payload then .error .corrupt
      else .ok ({ record with payload := bytes.take record.payload.length },
        (frame record).length) := by
  have hlength : ¬(encodeHeader record ++ bytes).length < kJournalRecordHeaderSize := by
    rw [List.length_append, encodeHeader_length]
    omega
  have hbody : (encodeHeader record ++ bytes).take 32 = encodeHeaderBody record := by
    rw [encodeHeader, List.append_assoc, List.take_append_of_le_length
      (by rw [encodeHeaderBody_length]), List.take_of_length_le (by rw [encodeHeaderBody_length])]
  have hdrop : (encodeHeader record ++ bytes).drop kJournalRecordHeaderSize = bytes := by
    rw [← encodeHeader_length record, List.drop_left]
  have htotal : ((encodeHeader record ++ bytes).length <
      kJournalRecordHeaderSize + record.payload.length) ↔ bytes.length < record.payload.length := by
    rw [List.length_append, encodeHeader_length]
    omega
  unfold decodeJournalRecord
  rw [if_neg hlength, decodes_header record bytes]
  simp only [headerOf, ne_eq, not_true_eq_false, if_false, payloadLen_toNat h, hbody, hdrop, htotal,
    frame_length, JournalRecordType.ofCode_code]
  rw [if_neg (Nat.not_lt.2 h)]

theorem decode_frame (h : Fits record) (rest : Bytes) :
    decodeJournalRecord (frame record ++ rest) kScanPayloadBound =
      .ok (record, (frame record).length) := by
  rw [frame_eq, List.append_assoc, decode_header h, ← frame_eq]
  have hlength : ¬(record.payload ++ rest).length < record.payload.length := by
    rw [List.length_append]
    omega
  simp only [if_neg hlength, List.take_left, ne_eq, not_true_eq_false, if_false]

theorem decode_cut (h : Fits record) {n : ℕ} (hn : n < (frame record).length) :
    decodeJournalRecord ((frame record).take n) kScanPayloadBound = .error .truncated := by
  rw [frame_length] at hn
  by_cases hshort : n < kJournalRecordHeaderSize
  · unfold decodeJournalRecord
    rw [if_pos]
    rw [List.length_take, frame_length]
    omega
  · have htake : (frame record).take n =
        encodeHeader record ++ record.payload.take (n - kJournalRecordHeaderSize) := by
      rw [frame_eq, List.take_append, encodeHeader_length, List.take_of_length_le]
      rw [encodeHeader_length]
      omega
    rw [htake, decode_header h, if_pos]
    rw [List.length_take]
    omega

theorem decode_append {n : ℕ}
    (h : decodeJournalRecord bytes kScanPayloadBound = .ok (record, n)) (rest : Bytes) :
    decodeJournalRecord (bytes ++ rest) kScanPayloadBound = .ok (record, n) ∧ n ≤ bytes.length ∧
      0 < n := by
  unfold decodeJournalRecord at h ⊢
  split at h
  · cases h
  · next hlength =>
    have hlonger : ¬(bytes ++ rest).length < kJournalRecordHeaderSize := by
      rw [List.length_append]
      omega
    rw [if_neg hlonger]
    split at h
    · cases h
    · next header left hheader =>
      rw [extends_readHeader _ _ _ rest hheader]
      simp only at h ⊢
      split at h
      · cases h
      · next hmagic =>
        rw [if_neg hmagic]
        split at h
        · cases h
        · next hversion =>
          rw [if_neg hversion]
          split at h
          · cases h
          · next hflags =>
            rw [if_neg hflags]
            split at h
            · cases h
            · next hbound =>
              rw [if_neg hbound]
              split at h
              · cases h
              · next htotal =>
                have hlength' : (bytes ++ rest).length = bytes.length + rest.length :=
                  List.length_append
                have hheaderSize : kJournalRecordHeaderSize = 36 := rfl
                have hbody : (bytes ++ rest).take 32 = bytes.take 32 :=
                  List.take_append_of_le_length (by omega)
                have hpayload : ((bytes ++ rest).drop kJournalRecordHeaderSize).take
                    header.payloadLen.toNat =
                      (bytes.drop kJournalRecordHeaderSize).take header.payloadLen.toNat := by
                  rw [List.drop_append_of_le_length (by omega),
                    List.take_append_of_le_length (by rw [List.length_drop]; omega)]
                rw [if_neg (by omega), hbody, hpayload]
                split at h
                · cases h
                · next hcrc =>
                  rw [if_neg hcrc]
                  cases h
                  exact ⟨rfl, by omega, by omega⟩

end Frame

section Loop

def scanBytes (bytes : Bytes) (scan : Scan) : Scan := scanLoop bytes.length bytes scan

theorem scanLoop_fuel {fuel fuel' : ℕ} (h : bytes.length ≤ fuel) (h' : bytes.length ≤ fuel') :
    scanLoop fuel bytes scan = scanLoop fuel' bytes scan := by
  induction fuel generalizing bytes scan fuel' with
  | zero =>
    obtain rfl := List.eq_nil_of_length_eq_zero (Nat.le_zero.1 h)
    cases fuel' with
    | zero => rfl
    | succ fuel' => simp only [scanLoop, if_true]
  | succ fuel ih =>
    cases fuel' with
    | zero =>
      obtain rfl := List.eq_nil_of_length_eq_zero (Nat.le_zero.1 h')
      simp only [scanLoop, if_true]
    | succ fuel' =>
      simp only [scanLoop]
      split
      · rfl
      · cases hdecode : decodeJournalRecord bytes kScanPayloadBound with
        | error status => cases status <;> rfl
        | ok decoded =>
          obtain ⟨record, consumed⟩ := decoded
          obtain ⟨-, hle, hpos⟩ := decode_append hdecode []
          simp only
          cases scan.accept record with
          | none => rfl
          | some next => exact ih (by rw [List.length_drop]; omega) (by rw [List.length_drop]; omega)

theorem scanBytes_nil (scan : Scan) : scanBytes [] scan = scan := rfl

theorem scanBytes_of_ok {consumed : ℕ} (hbytes : bytes ≠ [])
    (h : decodeJournalRecord bytes kScanPayloadBound = .ok (record, consumed))
    (haccept : scan.accept record = some scan') :
    scanBytes bytes scan = scanBytes (bytes.drop consumed) scan' := by
  obtain ⟨-, hle, hpos⟩ := decode_append h []
  unfold scanBytes
  rw [scanLoop_fuel (Nat.le_refl _) (Nat.le_succ _)]
  simp only [scanLoop, if_neg hbytes, h, haccept]
  exact scanLoop_fuel (by rw [List.length_drop]; omega) (Nat.le_refl _)

theorem scanBytes_of_truncated (hbytes : bytes ≠ [])
    (h : decodeJournalRecord bytes kScanPayloadBound = .error .truncated) :
    scanBytes bytes scan = scan.truncate bytes.length := by
  unfold scanBytes
  rw [scanLoop_fuel (Nat.le_refl _) (Nat.le_succ _)]
  simp only [scanLoop, if_neg hbytes, h]

theorem frame_ne_nil (record : JournalRecord) : frame record ≠ [] := by
  intro h
  have hlength := congrArg List.length h
  rw [frame_length] at hlength
  exact absurd hlength (by rw [kJournalRecordHeaderSize, List.length_nil]; omega)

theorem scanBytes_frame (h : Fits record) (haccept : scan.accept record = some scan')
    (rest : Bytes) : scanBytes (frame record ++ rest) scan = scanBytes rest scan' := by
  have hne : frame record ++ rest ≠ [] := fun h ↦ frame_ne_nil record (List.append_eq_nil_iff.1 h).1
  rw [scanBytes_of_ok hne (decode_frame h rest) haccept, List.drop_left]

end Loop

section Clean

/-- The scan takes the file apart to its very end and goes on with whatever is appended to it. -/
def Clean (file : Bytes) (scan : Scan) : Prop :=
  ∀ rest, scanBytes (file ++ rest) {} = scanBytes rest scan

variable {file : Bytes} {records : List JournalRecord}

theorem clean_nil : Clean [] {} := fun _ ↦ rfl

theorem Clean.frame (h : Clean file scan) (hfits : Fits record)
    (haccept : scan.accept record = some scan') : Clean (file ++ frame record) scan' := by
  intro rest
  rw [List.append_assoc, h, scanBytes_frame hfits haccept]

def acceptAll : Scan → List JournalRecord → Option Scan
  | scan, [] => some scan
  | scan, record :: records => (scan.accept record).bind (acceptAll · records)

theorem Clean.frames (h : Clean file scan) (hfits : ∀ record ∈ records, Fits record)
    (haccept : acceptAll scan records = some scan') :
    Clean (file ++ records.flatMap Framing.frame) scan' := by
  induction records generalizing file scan with
  | nil =>
    cases haccept
    rw [List.flatMap_nil, List.append_nil]
    exact h
  | cons record records ih =>
    obtain ⟨next, hnext, haccept⟩ := Option.bind_eq_some_iff.1 haccept
    rw [List.flatMap_cons, ← List.append_assoc]
    exact ih (h.frame (hfits _ List.mem_cons_self) hnext)
      (fun r hr ↦ hfits r (List.mem_cons_of_mem _ hr)) haccept

theorem Clean.scanBytes (h : Clean file scan) : scanBytes file {} = scan := by
  have hnil := h []
  rwa [List.append_nil, scanBytes_nil] at hnil

theorem le_of_scan_ok (h : (scanJournalFile file).ok = true) : file.length ≤ kJournalMaxScanBytes := by
  unfold scanJournalFile at h
  split at h
  · cases h
  · next hsize => exact Nat.le_of_not_lt hsize

/-- What the scanner reports of a file it can take apart. -/
theorem scanJournalFile_of_clean (h : Clean file scan) (hsize : file.length ≤ kJournalMaxScanBytes) :
    scanJournalFile file = scan.finish := by
  unfold scanJournalFile
  rw [if_neg (Nat.not_lt.2 hsize)]
  exact congrArg Scan.finish h.scanBytes

theorem decode_error {status : JournalStatus}
    (h : decodeJournalRecord bytes kScanPayloadBound = .error status) :
    status = .truncated ∨ status ≠ .ok ∧ status ≠ .truncated := by
  unfold decodeJournalRecord at h
  simp only at h
  repeat' split at h
  all_goals first
    | cases h; exact .inl rfl
    | cases h; exact .inr ⟨nofun, nofun⟩
    | cases h

theorem accept_tail (h : scan.accept record = some scan') :
    scan'.result.discardedTruncatedBytes = scan.result.discardedTruncatedBytes ∧
      scan'.result.status = scan.result.status := by
  unfold Scan.accept at h
  simp only at h
  repeat' split at h
  all_goals cases h <;> exact ⟨rfl, rfl⟩

theorem scanBytes_of_untruncated {fuel : ℕ} (hfuel : bytes.length ≤ fuel)
    (hsize : bytes.length < 2 ^ 64) (hscan : scan.result.discardedTruncatedBytes = 0)
    (hstatus : (scanLoop fuel bytes scan).result.status = .ok ∨
      (scanLoop fuel bytes scan).result.status = .truncated)
    (htail : (scanLoop fuel bytes scan).result.discardedTruncatedBytes = 0) (rest : Bytes) :
    scanBytes (bytes ++ rest) scan = scanBytes rest (scanLoop fuel bytes scan) ∧
      (scanLoop fuel bytes scan).result.status = scan.result.status := by
  induction fuel generalizing bytes scan with
  | zero =>
    obtain rfl := List.eq_nil_of_length_eq_zero (Nat.le_zero.1 hfuel)
    exact ⟨rfl, rfl⟩
  | succ fuel ih =>
    by_cases hbytes : bytes = []
    · subst hbytes
      exact ⟨rfl, rfl⟩
    · simp only [scanLoop, if_neg hbytes] at hstatus htail ⊢
      cases hdecode : decodeJournalRecord bytes kScanPayloadBound with
      | error status =>
        obtain rfl | ⟨hok, htruncated⟩ := decode_error hdecode
        · simp only [hdecode, Scan.truncate, hscan, UInt64.zero_add] at htail
          have hzero := congrArg UInt64.toNat htail
          rw [UInt64.toNat_ofNat_of_lt' hsize] at hzero
          exact absurd (List.eq_nil_of_length_eq_zero hzero) hbytes
        · simp only [hdecode] at hstatus
          cases status <;> first
            | exact absurd rfl hok
            | exact absurd rfl htruncated
            | exact absurd hstatus (by rintro (h | h) <;> cases h)
      | ok decoded =>
        obtain ⟨record, consumed⟩ := decoded
        obtain ⟨hdecode', hle, hpos⟩ := decode_append hdecode rest
        simp only [hdecode] at hstatus htail ⊢
        cases haccept : scan.accept record with
        | none =>
          simp only [haccept] at hstatus
          exact absurd hstatus (by rintro (h | h) <;> cases h)
        | some next =>
          simp only [haccept] at hstatus htail ⊢
          have hne : bytes ++ rest ≠ [] := fun h ↦ hbytes (List.append_eq_nil_iff.1 h).1
          rw [scanBytes_of_ok hne hdecode' haccept, List.drop_append_of_le_length hle,
            ← (accept_tail haccept).2]
          exact ih (by rw [List.length_drop]; omega) (by rw [List.length_drop]; omega)
            ((accept_tail haccept).1.trans hscan) hstatus htail

theorem finish_tail (scan : Scan) :
    scan.finish.discardedTruncatedBytes = scan.result.discardedTruncatedBytes ∧
      scan.finish.status = scan.result.status ∧ scan.finish.committed = scan.result.committed ∧
      (scan.finish.ok = true ↔ scan.result.status = .ok ∨ scan.result.status = .truncated) := by
  unfold Scan.finish
  simp only
  split <;> exact ⟨rfl, rfl, rfl, by simp only [Bool.or_eq_true, decide_eq_true_eq]⟩

theorem clean_of_scan (hok : (scanJournalFile file).ok = true)
    (htail : (scanJournalFile file).discardedTruncatedBytes = 0) :
    ∃ scan, Clean file scan ∧ scanJournalFile file = scan.finish ∧ scan.result.status = .ok := by
  unfold scanJournalFile at hok htail ⊢
  split at hok
  · cases hok
  · next hsize =>
    rw [if_neg hsize] at htail ⊢
    obtain ⟨hdiscarded, -, -, hstatus⟩ := finish_tail (scanLoop file.length file {})
    rw [hdiscarded] at htail
    have hlt : file.length < 2 ^ 64 := by
      simp only [kJournalMaxScanBytes] at hsize
      omega
    have hscan := scanBytes_of_untruncated (Nat.le_refl _) hlt rfl (hstatus.1 hok) htail
    exact ⟨_, fun rest ↦ (hscan rest).1, rfl, (hscan []).2⟩

end Clean

end RateGovernor.Dynamics.Framing
