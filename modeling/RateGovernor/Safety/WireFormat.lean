import RateGovernor.Dynamics.Canonical
import RateGovernor.Dynamics.Messages

namespace RateGovernor.Safety.WireFormat

open Model.CheckedMath Model.Identity Model.Reason Model.Entities Model.Journal Model.Wire
open Foundation.ByteCodec Foundation.ExactReader Dynamics.Canonical Dynamics.Messages

inductive MessageKind
  | hello | applyRequest | applyResponse | revokeRequest | revokeResponse | verifyRequest
  | verifyResponse | accountingResponse | error

def MessageKind.Message : MessageKind → Type
  | hello => HelloMessage
  | applyRequest => ApplyRequestMessage
  | applyResponse => ApplyResponseMessage
  | revokeRequest => RevokeRequestMessage
  | revokeResponse => RevokeResponseMessage
  | verifyRequest => VerifyRequestMessage
  | verifyResponse => VerifyResponseMessage
  | accountingResponse => AccountingResponseMessage
  | error => ErrorMessage

def MessageKind.encode : (kind : MessageKind) → kind.Message → Bytes
  | hello => encodeHello
  | applyRequest => encodeApplyRequest
  | applyResponse => encodeApplyResponse
  | revokeRequest => encodeRevokeRequest
  | revokeResponse => encodeRevokeResponse
  | verifyRequest => encodeVerifyRequest
  | verifyResponse => encodeVerifyResponse
  | accountingResponse => encodeAccountingResponse
  | error => encodeError

def MessageKind.reader : (kind : MessageKind) → Reader kind.Message
  | hello => decodeHello
  | applyRequest => decodeApplyRequest
  | applyResponse => decodeApplyResponse
  | revokeRequest => decodeRevokeRequest
  | revokeResponse => decodeRevokeResponse
  | verifyRequest => decodeVerifyRequest
  | verifyResponse => decodeVerifyResponse
  | accountingResponse => decodeAccountingResponse
  | error => decodeError

def MessageKind.decode (kind : MessageKind) (payload : Bytes) : Option kind.Message :=
  decodeMessage kind.reader payload

def MessageKind.texts : (kind : MessageKind) → kind.Message → List Text
  | hello => fun message ↦ [message.label, message.build]
  | applyResponse => fun message ↦ [message.detail]
  | revokeResponse => fun message ↦ [message.detail]
  | verifyResponse => fun message ↦ [message.detail]
  | error => fun message ↦ [message.detail]
  | applyRequest | revokeRequest | verifyRequest | accountingResponse => fun _ ↦ []

section Exactness

theorem consumes_wireText : Consumes getWireText fun text taken ↦ wireText text = some taken := by
  refine .field exact_u16 fun length ↦ .check fun hshort ↦ ?_
  refine (consumes_raw _).mono fun text taken htext ↦ ?_
  obtain ⟨rfl, hlength⟩ := htext
  have hbound : taken.length ≤ kWireMaxTextBytes := hlength ▸ of_decide_eq_true hshort
  have hfits : ¬(kWireMaxTextBytes < taken.length || 0xFFFF < taken.length) = true := by
    rw [Bool.or_eq_true, decide_eq_true_eq, decide_eq_true_eq]
    simp only [kWireMaxTextBytes] at hbound ⊢
    omega
  rw [wireText, if_neg hfits, hlength, UInt16.ofNat_toNat]

theorem exact_hello : Exact decodeHello encodeHello := by
  iterate 4 refine .field exact_u64 fun _ ↦ ?_
  refine .field exact_enum fun kind ↦ ?_
  refine .field exact_enum fun verification ↦ ?_
  refine .field exact_u16 fun reserved ↦ ?_
  refine .field exact_u32 fun capabilities ↦ ?_
  iterate 6 refine .field exact_u64 fun _ ↦ ?_
  refine .field exact_u32 fun workerThreads ↦ ?_
  refine .field exact_u32 fun protocol ↦ ?_
  refine .check fun hchecked ↦ ?_
  simp only [Bool.and_eq_true, decide_eq_true_eq] at hchecked
  obtain ⟨rfl, rfl⟩ := hchecked
  refine consumes_wireText.bind fun label _ hlabel ↦ ?_
  refine consumes_wireText.bind fun build _ hbuild ↦ .pure ?_
  simp only [encodeHello, hlabel, hbuild]
  rfl

theorem exact_applyRequest : Exact decodeApplyRequest encodeApplyRequest := by
  iterate 5 refine .field exact_u64 fun _ ↦ ?_
  refine .field exact_enum fun refill ↦ ?_
  refine .field exact_u8 fun pad8 ↦ ?_
  refine .field exact_u16 fun pad16 ↦ ?_
  iterate 3 refine .field exact_u64 fun _ ↦ ?_
  refine .check fun hpads ↦ ?_
  simp only [Bool.and_eq_true, decide_eq_true_eq] at hpads
  obtain ⟨rfl, rfl⟩ := hpads
  exact .pure rfl

theorem exact_applyResponse : Exact decodeApplyResponse encodeApplyResponse := by
  refine .field exact_u64 fun attempt ↦ ?_
  refine .field exact_u8 fun accepted ↦ ?_
  refine .field exact_u8 fun pad8 ↦ ?_
  refine .field exact_reason fun reason ↦ ?_
  refine .field exact_u32 fun pad32 ↦ ?_
  iterate 4 refine .field exact_u64 fun _ ↦ ?_
  refine consumes_wireText.bind fun detail _ hdetail ↦ ?_
  refine .check fun hchecked ↦ .pure ?_
  simp only [Bool.and_eq_true, decide_eq_true_eq] at hchecked
  obtain ⟨⟨rfl, rfl⟩, hflag⟩ := hchecked
  simp only [encodeApplyResponse, hdetail, ← putBool_of_le_one hflag]
  rfl

theorem exact_revokeRequest : Exact decodeRevokeRequest encodeRevokeRequest := by
  iterate 5 refine .field exact_u64 fun _ ↦ ?_
  refine .field exact_reason fun reason ↦ ?_
  refine .field exact_u16 fun pad16 ↦ ?_
  refine .field exact_u32 fun pad32 ↦ ?_
  refine .check fun hpads ↦ ?_
  simp only [Bool.and_eq_true, decide_eq_true_eq] at hpads
  obtain ⟨rfl, rfl⟩ := hpads
  exact .pure rfl

theorem exact_revokeResponse : Exact decodeRevokeResponse encodeRevokeResponse := by
  refine .field exact_u64 fun attempt ↦ ?_
  refine .field exact_u8 fun removed ↦ ?_
  refine .field exact_u8 fun pad8 ↦ ?_
  refine .field exact_reason fun reason ↦ ?_
  refine .field exact_u32 fun pad32 ↦ ?_
  iterate 2 refine .field exact_u64 fun _ ↦ ?_
  refine consumes_wireText.bind fun detail _ hdetail ↦ ?_
  refine .check fun hchecked ↦ .pure ?_
  simp only [Bool.and_eq_true, decide_eq_true_eq] at hchecked
  obtain ⟨⟨rfl, rfl⟩, hflag⟩ := hchecked
  simp only [encodeRevokeResponse, hdetail, ← putBool_of_le_one hflag]
  rfl

theorem exact_verifyRequest : Exact decodeVerifyRequest encodeVerifyRequest := by
  iterate 5 refine .field exact_u64 fun _ ↦ ?_
  exact .pure rfl

theorem exact_verifyResponse : Exact decodeVerifyResponse encodeVerifyResponse := by
  refine .field exact_u64 fun attempt ↦ ?_
  refine .field exact_u8 fun present ↦ ?_
  refine .field exact_u8 fun pad8 ↦ ?_
  refine .field exact_reason fun reason ↦ ?_
  refine .field exact_u32 fun pad32 ↦ ?_
  iterate 4 refine .field exact_u64 fun _ ↦ ?_
  refine consumes_wireText.bind fun detail _ hdetail ↦ ?_
  refine .check fun hchecked ↦ .pure ?_
  simp only [Bool.and_eq_true, decide_eq_true_eq] at hchecked
  obtain ⟨⟨rfl, rfl⟩, hflag⟩ := hchecked
  simp only [encodeVerifyResponse, hdetail, ← putBool_of_le_one hflag]
  rfl

theorem exact_accountingResponse : Exact decodeAccountingResponse encodeAccountingResponse := by
  iterate 16 refine .field exact_u64 fun _ ↦ ?_
  exact .pure rfl

theorem exact_error : Exact decodeError encodeError := by
  refine .field exact_reason fun reason ↦ ?_
  refine .field exact_u16 fun pad16 ↦ ?_
  refine .field exact_u32 fun pad32 ↦ ?_
  refine consumes_wireText.bind fun detail _ hdetail ↦ ?_
  refine .check fun hpads ↦ .pure ?_
  simp only [Bool.and_eq_true, decide_eq_true_eq] at hpads
  obtain ⟨rfl, rfl⟩ := hpads
  simp only [encodeError, hdetail]
  rfl

theorem MessageKind.exact (kind : MessageKind) : Exact kind.reader kind.encode := by
  cases kind with
  | hello => exact exact_hello
  | applyRequest => exact exact_applyRequest
  | applyResponse => exact exact_applyResponse
  | revokeRequest => exact exact_revokeRequest
  | revokeResponse => exact exact_revokeResponse
  | verifyRequest => exact exact_verifyRequest
  | verifyResponse => exact exact_verifyResponse
  | accountingResponse => exact exact_accountingResponse
  | error => exact exact_error

end Exactness

section Messages

variable {kind : MessageKind} {message : kind.Message} {payload : Bytes}

theorem decode_encode (h : ∀ text ∈ kind.texts message, text.length ≤ kWireMaxTextBytes) :
    kind.decode (kind.encode message) = some message := by
  cases kind with
  | hello =>
    exact (carries_hello (h _ List.mem_cons_self)
      (h _ (List.mem_cons_of_mem _ List.mem_cons_self))).2.2
  | applyRequest => exact (carries_applyRequest message).2.2
  | applyResponse => exact (carries_applyResponse (h _ List.mem_cons_self)).2.2
  | revokeRequest => exact (carries_revokeRequest message).2.2
  | revokeResponse => exact (carries_revokeResponse (h _ List.mem_cons_self)).2.2
  | verifyRequest => exact (carries_verifyRequest message).2.2
  | verifyResponse => exact (carries_verifyResponse (h _ List.mem_cons_self)).2.2
  | accountingResponse => exact (carries_accountingResponse message).2.2
  | error => exact decodeMessage_encodeError (h _ List.mem_cons_self)

theorem encode_of_decode (h : kind.decode payload = some message) :
    kind.encode message = payload := by
  unfold MessageKind.decode decodeMessage at h
  split at h
  · next value hread =>
    cases h
    rw [kind.exact.bytes hread, List.append_nil]
  · cases h

end Messages

section Frames

theorem code_ofCode (raw : UInt16) : (MessageType.ofCode raw).code = raw := by
  by_cases h : raw ∈ listedMessageTypes
  · rw [MessageType.ofCode, dif_pos h]
    exact code_find _ h
  · rw [MessageType.ofCode, dif_neg h, MessageType.code]

def putFrameHeader (header : FrameHeader) : Bytes :=
  [putU32 header.magic, putU16 header.version, putU16 header.type.code, putU32 header.flags,
    putU32 header.payloadLen].flatten

theorem exact_frameHeader : Exact readFrameHeader putFrameHeader := by
  refine .field exact_u32 fun magic ↦ ?_
  refine .field exact_u16 fun version ↦ ?_
  refine .field exact_u16 fun rawType ↦ ?_
  refine .field exact_u32 fun flags ↦ ?_
  refine .field exact_u32 fun payloadLen ↦ .pure ?_
  simp only [putFrameHeader, code_ofCode]
  rfl

theorem putFrameHeader_length (header : FrameHeader) :
    (putFrameHeader header).length = kWireHeaderSize := rfl

variable {bytes : Bytes} {header : FrameHeader} {frame : Frame}

theorem decodeFrameHeader_ok (h : decodeFrameHeader bytes = .ok header) :
    header.magic = kWireFrameMagic ∧ header.version = kWireProtocolVersion ∧
      header.payloadLen.toNat ≤ kWireMaxPayloadBytes ∧
        ∃ left, bytes = putFrameHeader header ++ left := by
  unfold decodeFrameHeader at h
  split at h
  · cases h
  · next out left hread =>
    by_cases hmagic : out.magic = kWireFrameMagic
    · by_cases hversion : out.version = kWireProtocolVersion
      · by_cases hbound : kWireMaxPayloadBytes < out.payloadLen.toNat
        · rw [if_neg (not_not.2 hmagic), if_neg (not_not.2 hversion), if_pos hbound] at h
          cases h
        · rw [if_neg (not_not.2 hmagic), if_neg (not_not.2 hversion), if_neg hbound] at h
          cases h
          exact ⟨hmagic, hversion, Nat.not_lt.1 hbound, left, exact_frameHeader.bytes hread⟩
      · rw [if_neg (not_not.2 hmagic), if_pos hversion] at h
        cases h
    · rw [if_pos hmagic] at h
      cases h

theorem encodeFrame_of_header {payload : Bytes} (hmagic : header.magic = kWireFrameMagic)
    (hversion : header.version = kWireProtocolVersion)
    (hbound : header.payloadLen.toNat ≤ kWireMaxPayloadBytes)
    (hlength : payload.length = header.payloadLen.toNat) :
    encodeFrame { type := header.type, flags := header.flags, payload } =
      putFrameHeader header ++ payload ++ putU32 (crc32c (putFrameHeader header ++ payload)) := by
  have hheader : encodeFrameHeader { type := header.type, flags := header.flags, payload } =
      putFrameHeader header := by
    simp only [encodeFrameHeader, putFrameHeader, hmagic, hversion, hlength, UInt32.ofNat_toNat]
  rw [encodeFrame_eq (hlength ▸ hbound), hheader]

theorem encodeFrame_prefix (h : decodeFrame bytes = .ok frame) : encodeFrame frame <+: bytes := by
  unfold decodeFrame at h
  cases hheader : decodeFrameHeader bytes with
  | error reason =>
    rw [hheader] at h
    cases h
  | ok header =>
    obtain ⟨hmagic, hversion, hbound, left, hbytes⟩ := decodeFrameHeader_ok hheader
    simp only [hheader, bind, Except.bind] at h
    split at h
    · cases h
    · next hlong =>
      rw [Nat.not_lt] at hlong
      have htake : bytes.take (kWireHeaderSize + header.payloadLen.toNat) =
          putFrameHeader header ++ left.take header.payloadLen.toNat := by
        rw [hbytes, ← putFrameHeader_length header, List.take_length_add_append]
      have hlength : (left.take header.payloadLen.toNat).length = header.payloadLen.toNat := by
        rw [hbytes, List.length_append, putFrameHeader_length] at hlong
        rw [List.length_take]
        omega
      split at h
      · cases h
      · next storedCrc rest hcrc =>
        split at h
        · cases h
        · next hstored =>
          cases h
          have hdrop := exact_u32.bytes hcrc
          rw [htake, not_not] at hstored
          rw [htake, ← putFrameHeader_length header, List.drop_left,
            encodeFrame_of_header hmagic hversion hbound hlength, hstored, ← htake]
          refine ⟨rest, ?_⟩
          rw [List.append_assoc, ← hdrop, List.take_append_drop]

end Frames

/-- Encoding and decoding are inverse to each other, for messages and for frames. -/
theorem wire_bijective :
    (∀ (kind : MessageKind) (message : kind.Message),
      (∀ text ∈ kind.texts message, text.length ≤ kWireMaxTextBytes) →
        kind.decode (kind.encode message) = some message) ∧
    (∀ (kind : MessageKind) (payload : Bytes) (message : kind.Message),
      kind.decode payload = some message → kind.encode message = payload) ∧
    (∀ frame : Frame, frame.payload.length ≤ kWireMaxPayloadBytes →
      decodeFrame (encodeFrame frame) = .ok frame) ∧
    ∀ (bytes : Bytes) (frame : Frame), decodeFrame bytes = .ok frame → encodeFrame frame <+: bytes :=
  ⟨fun _ _ htexts ↦ decode_encode htexts, fun _ _ _ hdecoded ↦ encode_of_decode hdecoded,
    fun _ hbound ↦ decodeFrame_encodeFrame hbound, fun _ _ hframe ↦ encodeFrame_prefix hframe⟩

def labelledHello : HelloMessage :=
  { backend := ⟨1⟩, boot := ⟨2⟩, epoch := ⟨3⟩, kind := .synthetic, capabilities := 7,
    verification := .postApplyReadback, maxRateUps := 100, maxBurstTokens := 10, processId := 4,
    startedAtNs := 5, envelopeLimit := 6, queueCapacity := 8, workerThreads := 2,
    label := [0x77, 0x31], build := [0x33] }

theorem wire_bijective_hello :
    MessageKind.hello.decode (encodeHello labelledHello) = some labelledHello ∧
      decodeFrame (encodeFrame { type := .hello, payload := encodeHello labelledHello }) =
        .ok { type := .hello, payload := encodeHello labelledHello } := by
  obtain ⟨hmessage, -, hframe, -⟩ := wire_bijective
  refine ⟨hmessage .hello labelledHello ?_, hframe _ ?_⟩
  · decide
  · decide

end RateGovernor.Safety.WireFormat
