import RateGovernor.Dynamics.Framing
import RateGovernor.Dynamics.Sealing
import RateGovernor.Safety.WireFormat

namespace RateGovernor.Safety.ShortCorruption

open Model.CheckedMath Model.Reason Model.Journal Model.Wire Foundation.ByteCodec
open Foundation.ExactReader Dynamics.Checksums Dynamics.Framing Dynamics.Sealing WireFormat

variable {low high bound n a b : ℕ} {bytes changed : Bytes}

theorem length_eq_of_field (ha : a < 2 ^ 32) (hb : b < 2 ^ 32)
    (h : putU32 (UInt32.ofNat a) = putU32 (UInt32.ofNat b)) : a = b := by
  have hword := congrArg UInt32.toNat (putU32_injective h)
  rwa [UInt32.toNat_ofNat_of_lt' ha, UInt32.toNat_ofNat_of_lt' hb] at hword

section Frames

variable {frame found : Frame}

/-- What precedes the length field of an encoded frame, its payload, and its checksum. -/
def framePlaces (frame : Frame) : List (ℕ × ℕ) :=
  [(0, 12), (kWireHeaderSize, kWireHeaderSize + frame.payload.length),
    (kWireHeaderSize + frame.payload.length,
      kWireHeaderSize + frame.payload.length + kWireCrcSize)]

theorem encodeFrame_eq_sealed (h : frame.payload.length ≤ kWireMaxPayloadBytes) :
    encodeFrame frame = sealed (encodeFrameHeader frame ++ frame.payload) [] := by
  rw [Dynamics.Messages.encodeFrame_eq h, sealed, List.append_nil, List.append_nil]

theorem frame_length_field (h : frame.payload.length ≤ kWireMaxPayloadBytes) (rest : Bytes) :
    ((encodeFrame frame ++ rest).drop 12).take 4 =
      putU32 (UInt32.ofNat frame.payload.length) := by
  have hfields : encodeFrame frame ++ rest =
      [putU32 kWireFrameMagic, putU16 kWireProtocolVersion, putU16 frame.type.code,
        putU32 frame.flags].flatten ++ (putU32 (UInt32.ofNat frame.payload.length) ++
          (frame.payload ++ (putU32 (crc32c (encodeFrameHeader frame ++ frame.payload)) ++ rest))) := by
    simp only [Dynamics.Messages.encodeFrame_eq h, encodeFrameHeader, List.flatten_cons,
      List.flatten_nil, List.append_nil, List.append_assoc]
  rw [hfields, List.drop_left' (by rfl), List.take_left' (by rw [putU32_length])]

theorem payload_le_of_decodeFrame (h : decodeFrame bytes = .ok frame) :
    frame.payload.length ≤ kWireMaxPayloadBytes := by
  unfold decodeFrame at h
  cases hheader : decodeFrameHeader bytes with
  | error reason =>
    rw [hheader] at h
    cases h
  | ok header =>
    obtain ⟨-, -, hbound, -⟩ := decodeFrameHeader_ok hheader
    simp only [hheader, bind, Except.bind] at h
    split at h
    · cases h
    · split at h
      · cases h
      · split at h
        · cases h
        · cases h
          simp only [List.length_drop, List.length_take]
          omega

theorem decodeFrame_changed (hplace : (low, high) ∈ framePlaces frame)
    (h : ShortChange low high (encodeFrame frame) changed) :
    ∃ reason, decodeFrame changed = .error reason := by
  cases hdecoded : decodeFrame changed with
  | error reason => exact ⟨reason, rfl⟩
  | ok found =>
    exfalso
    have hfound := payload_le_of_decodeFrame hdecoded
    obtain ⟨rest, rfl⟩ := encodeFrame_prefix hdecoded
    by_cases hfits : frame.payload.length ≤ kWireMaxPayloadBytes
    · have hmax : kWireMaxPayloadBytes < 2 ^ 32 := by decide
      have hheader : kWireHeaderSize = 16 := rfl
      have hcrc : kWireCrcSize = 4 := rfl
      simp only [framePlaces, List.mem_cons, Prod.mk.injEq, List.not_mem_nil, or_false] at hplace
      have hfield := h.untouched 12 4 (by omega)
      have horiginal := frame_length_field hfits []
      rw [List.append_nil] at horiginal
      rw [frame_length_field hfound, horiginal] at hfield
      have hlength := length_eq_of_field (by omega) (by omega) hfield
      have hrest := h.length
      rw [List.length_append, Dynamics.Messages.length_encodeFrame hfound,
        Dynamics.Messages.length_encodeFrame hfits] at hrest
      obtain rfl := List.eq_nil_of_length_eq_zero (show rest.length = 0 by omega)
      rw [List.append_nil, encodeFrame_eq_sealed hfits, encodeFrame_eq_sealed hfound] at h
      have hfront : (encodeFrameHeader frame ++ frame.payload).length =
          kWireHeaderSize + frame.payload.length := by
        rw [List.length_append, Dynamics.Messages.length_encodeFrameHeader]
      refine not_sealed ?_ ?_ h
      · rw [hfront, List.length_append, Dynamics.Messages.length_encodeFrameHeader, hlength]
      · rw [hfront]
        omega
    · have hnone : encodeFrame frame = [] := if_pos (Nat.not_le.1 hfits)
      have hempty := h.length
      rw [hnone, List.length_nil] at hempty
      exact h.ne ((List.eq_nil_of_length_eq_zero hempty).trans hnone.symm)

end Frames

section Records

variable {record : JournalRecord} {header : RecordHeader}

/-- What precedes the length field of an encoded record, its checksum, and its payload. -/
def recordPlaces (record : JournalRecord) : List (ℕ × ℕ) :=
  [(0, 28), (32, kJournalRecordHeaderSize),
    (kJournalRecordHeaderSize, kJournalRecordHeaderSize + record.payload.length)]

theorem frame_eq_sealed (record : JournalRecord) :
    frame record = sealed (encodeHeaderBody record) record.payload := by
  have hcrc : recordCrc (encodeHeaderBody record) record.payload =
      crc32c (encodeHeaderBody record ++ record.payload) := crc32cExtend_append 0 _ _
  rw [frame_eq, encodeHeader, hcrc, sealed, List.append_assoc]

theorem record_length_field (record : JournalRecord) (rest : Bytes) :
    ((frame record ++ rest).drop 28).take 4 = putU32 (UInt32.ofNat record.payload.length) := by
  have hfields : frame record ++ rest =
      [putU32 kJournalRecordMagic, putU16 kJournalFormatVersion, putU16 record.type.code, putU32 0,
        putU64 record.sequence, putU64 record.txnId].flatten ++
          (putU32 (UInt32.ofNat record.payload.length) ++
            (putU32 (recordCrc (encodeHeaderBody record) record.payload) ++
              (record.payload ++ rest))) := by
    simp only [frame_eq, encodeHeader, encodeHeaderBody, List.flatten_cons, List.flatten_nil,
      List.append_nil, List.append_assoc]
  rw [hfields, List.drop_left' (by rfl), List.take_left' (by rw [putU32_length])]

theorem code_ofCode (raw : UInt16) : (JournalRecordType.ofCode raw).code = raw := by
  by_cases h : raw ∈ listedRecordTypes
  · rw [JournalRecordType.ofCode, dif_pos h]
    exact code_find _ h
  · rw [JournalRecordType.ofCode, dif_neg h, JournalRecordType.code]

def putHeaderBody (header : RecordHeader) : Bytes :=
  [putU32 header.magic, putU16 header.version, putU16 header.rawType, putU32 header.flags,
    putU64 header.sequence, putU64 header.txnId, putU32 header.payloadLen].flatten

def putHeader (header : RecordHeader) : Bytes :=
  putHeaderBody header ++ putU32 header.storedCrc

theorem length_putHeaderBody (header : RecordHeader) : (putHeaderBody header).length = 32 := rfl

theorem length_putHeader (header : RecordHeader) :
    (putHeader header).length = kJournalRecordHeaderSize := rfl

theorem exact_readHeader : Exact readHeader putHeader := by
  refine .field exact_u32 fun magic ↦ ?_
  refine .field exact_u16 fun version ↦ ?_
  refine .field exact_u16 fun rawType ↦ ?_
  refine .field exact_u32 fun flags ↦ ?_
  refine .field exact_u64 fun sequence ↦ ?_
  refine .field exact_u64 fun txnId ↦ ?_
  refine .field exact_u32 fun payloadLen ↦ ?_
  refine .field exact_u32 fun storedCrc ↦ .pure ?_
  rfl

def recordOf (header : RecordHeader) (payload : Bytes) : JournalRecord where
  type := .ofCode header.rawType
  sequence := header.sequence
  txnId := header.txnId
  payload := payload

theorem frame_of_header {payload : Bytes} (hmagic : header.magic = kJournalRecordMagic)
    (hversion : header.version = kJournalFormatVersion) (hflags : header.flags = 0)
    (hlength : payload.length = header.payloadLen.toNat)
    (hcrc : recordCrc (putHeaderBody header) payload = header.storedCrc) :
    frame (recordOf header payload) = putHeader header ++ payload := by
  have hbody : encodeHeaderBody (recordOf header payload) = putHeaderBody header := by
    simp only [encodeHeaderBody, recordOf, putHeaderBody, hmagic, hversion, hflags, hlength,
      code_ofCode, UInt32.ofNat_toNat]
  have hpayload : (recordOf header payload).payload = payload := rfl
  rw [frame_eq, encodeHeader, hbody, hpayload, hcrc, putHeader]

theorem payload_lt_of_encoded (h : encodeJournalRecord record bound ≠ []) :
    record.payload.length < 2 ^ 32 := by
  unfold encodeJournalRecord at h
  split at h
  · exact absurd rfl h
  · next hfits =>
    rw [Bool.or_eq_true, decide_eq_true_eq, decide_eq_true_eq, not_or] at hfits
    omega

theorem frame_prefix (h : decodeJournalRecord bytes bound = .ok (record, n)) :
    frame record <+: bytes ∧ record.payload.length < 2 ^ 32 := by
  unfold decodeJournalRecord at h
  split at h
  · cases h
  · split at h
    · cases h
    · next header left hread =>
      have hbytes := exact_readHeader.bytes hread
      split at h
      · cases h
      · next hmagic =>
        split at h
        · cases h
        · next hversion =>
          split at h
          · cases h
          · next hflags =>
            split at h
            · cases h
            · simp only at h
              split at h
              · cases h
              · next hlong =>
                split at h
                · cases h
                · next hcrc =>
                  rw [hbytes, ← length_putHeader header, List.drop_left] at hcrc
                  rw [hbytes, List.length_append, length_putHeader] at hlong
                  rw [putHeader, List.append_assoc, ← length_putHeaderBody header, List.take_left,
                    not_not] at hcrc
                  have hlength : (left.take header.payloadLen.toNat).length =
                      header.payloadLen.toNat := by
                    rw [List.length_take]
                    omega
                  have hrecord : record = recordOf header (left.take header.payloadLen.toNat) := by
                    rw [hbytes, ← length_putHeader header, List.drop_left] at h
                    cases h
                    rfl
                  have hframe := frame_of_header (not_not.1 hmagic) (not_not.1 hversion)
                    (not_not.1 hflags) hlength hcrc
                  rw [← hrecord] at hframe
                  refine ⟨⟨left.drop header.payloadLen.toNat, ?_⟩, ?_⟩
                  · rw [hframe, hbytes, List.append_assoc, List.take_append_drop]
                  · rw [hrecord]
                    exact hlength.trans_lt header.payloadLen.toNat_lt

theorem decodeJournalRecord_changed {written : ℕ} (hplace : (low, high) ∈ recordPlaces record)
    (h : ShortChange low high (encodeJournalRecord record written) changed) :
    ∃ status, decodeJournalRecord changed bound = .error status := by
  cases hdecoded : decodeJournalRecord changed bound with
  | error status => exact ⟨status, rfl⟩
  | ok decoded =>
    exfalso
    obtain ⟨found, n⟩ := decoded
    obtain ⟨⟨rest, rfl⟩, hfound⟩ := frame_prefix hdecoded
    by_cases hfits : encodeJournalRecord record written = []
    · have hempty := h.length
      rw [hfits, List.length_nil] at hempty
      exact h.ne ((List.eq_nil_of_length_eq_zero hempty).trans hfits.symm)
    · rw [(encodeJournalRecord_eq hfits).1] at h
      have hsmall := payload_lt_of_encoded hfits
      have hheader : kJournalRecordHeaderSize = 36 := rfl
      simp only [recordPlaces, List.mem_cons, Prod.mk.injEq, List.not_mem_nil, or_false] at hplace
      have hfield := h.untouched 28 4 (by omega)
      have horiginal := record_length_field record []
      rw [List.append_nil] at horiginal
      rw [record_length_field, horiginal] at hfield
      have hlength := length_eq_of_field hfound hsmall hfield
      have hrest := h.length
      rw [List.length_append, frame_length, frame_length] at hrest
      obtain rfl := List.eq_nil_of_length_eq_zero (show rest.length = 0 by omega)
      rw [List.append_nil, frame_eq_sealed, frame_eq_sealed] at h
      refine not_sealed ?_ ?_ h
      · rw [encodeHeaderBody_length, encodeHeaderBody_length]
      · rw [encodeHeaderBody_length]
        omega

end Records

/-- A change of at most four consecutive bytes of an encoded frame or record that lies in front of
its length field, within its payload or within its checksum is refused, whatever bound the record is
decoded with. A frame or a record over its bound is not encoded at all. -/
theorem short_corruption_detected :
    (∀ (frame : Frame) (changed : Bytes), ∀ place ∈ framePlaces frame,
      ShortChange place.1 place.2 (encodeFrame frame) changed →
        ∃ reason, decodeFrame changed = .error reason) ∧
    ∀ (record : JournalRecord) (written bound : ℕ) (changed : Bytes), ∀ place ∈ recordPlaces record,
      ShortChange place.1 place.2 (encodeJournalRecord record written) changed →
        ∃ status, decodeJournalRecord changed bound = .error status :=
  ⟨fun _ _ _ hplace hchange ↦ decodeFrame_changed hplace hchange,
    fun _ _ _ _ _ hplace hchange ↦ decodeJournalRecord_changed hplace hchange⟩

def loadedFrame : Frame := { type := .heartbeatRequest, payload := [1, 2, 3, 4, 5] }

theorem short_corruption_detected_payload :
    ∃ reason, decodeFrame ((encodeFrame loadedFrame).set 18 9) = .error reason := by
  refine short_corruption_detected.1 loadedFrame _ (kWireHeaderSize, kWireHeaderSize + 5)
    (by decide) ⟨List.length_set, by decide, 18, 1, by decide, by decide, by decide, ?_⟩
  exact fun i hi ↦ List.getElem?_set_ne (by omega)

end RateGovernor.Safety.ShortCorruption
