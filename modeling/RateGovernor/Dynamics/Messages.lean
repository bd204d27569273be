import RateGovernor.Model.Wire

namespace RateGovernor.Dynamics.Messages

open Model.CheckedMath Model.Identity Model.Reason Model.Entities Model.Journal Model.Wire
open Foundation.ByteCodec

section Frames

variable (frame : Frame)

def headerOf : FrameHeader :=
  { magic := kWireFrameMagic, version := kWireProtocolVersion, type := frame.type,
    flags := frame.flags, payloadLen := UInt32.ofNat frame.payload.length }

theorem decodes_frameHeader : Decodes readFrameHeader (encodeFrameHeader frame) (headerOf frame) := by
  refine (decodes_u32 _).field <| (decodes_u16 _).field <| (decodes_u16 _).field <|
    (decodes_u32 _).field <| (decodes_u32 _).field <| .done ?_
  simp only [MessageType.ofCode_code, headerOf]

theorem length_encodeFrameHeader : (encodeFrameHeader frame).length = kWireHeaderSize := by
  simp only [encodeFrameHeader, List.flatten_cons, List.flatten_nil, List.length_append,
    putU16_length, putU32_length, List.length_nil, kWireHeaderSize]

variable {frame}

theorem toNat_payloadLen (h : frame.payload.length ≤ kWireMaxPayloadBytes) :
    (headerOf frame).payloadLen.toNat = frame.payload.length := by
  apply UInt32.toNat_ofNat_of_lt'
  simp only [kWireMaxPayloadBytes] at h
  simp only [UInt32.size]
  omega

theorem decodeFrameHeader_append (h : frame.payload.length ≤ kWireMaxPayloadBytes) (rest : Bytes) :
    decodeFrameHeader (encodeFrameHeader frame ++ rest) = .ok (headerOf frame) := by
  have hbound : ¬kWireMaxPayloadBytes < (headerOf frame).payloadLen.toNat := by
    rw [toNat_payloadLen h]
    omega
  rw [decodeFrameHeader, decodes_frameHeader frame rest]
  exact if_neg hbound

theorem encodeFrame_eq (h : frame.payload.length ≤ kWireMaxPayloadBytes) :
    encodeFrame frame = (encodeFrameHeader frame ++ frame.payload) ++
      putU32 (crc32c (encodeFrameHeader frame ++ frame.payload)) := by
  rw [encodeFrame, if_neg (Nat.not_lt.2 h)]

theorem length_encodeFrame (h : frame.payload.length ≤ kWireMaxPayloadBytes) :
    (encodeFrame frame).length = kWireHeaderSize + frame.payload.length + kWireCrcSize := by
  rw [encodeFrame_eq h, List.length_append, List.length_append, length_encodeFrameHeader,
    putU32_length]
  rfl

theorem decodeFrame_encodeFrame (h : frame.payload.length ≤ kWireMaxPayloadBytes) :
    decodeFrame (encodeFrame frame) = .ok frame := by
  have hbody : (encodeFrameHeader frame ++ frame.payload).length =
      kWireHeaderSize + frame.payload.length := by
    rw [List.length_append, length_encodeFrameHeader]
  have hheader : decodeFrameHeader (encodeFrame frame) = .ok (headerOf frame) := by
    rw [encodeFrame_eq h, List.append_assoc]
    exact decodeFrameHeader_append h _
  have hlength : ¬(encodeFrame frame).length <
      kWireHeaderSize + frame.payload.length + kWireCrcSize := by
    rw [length_encodeFrame h]
    exact Nat.lt_irrefl _
  have htake : (encodeFrame frame).take (kWireHeaderSize + frame.payload.length) =
      encodeFrameHeader frame ++ frame.payload := by
    rw [encodeFrame_eq h, ← hbody, List.take_left]
  have hcrc : u32 ((encodeFrame frame).drop (kWireHeaderSize + frame.payload.length)) =
      some (crc32c (encodeFrameHeader frame ++ frame.payload), []) := by
    rw [encodeFrame_eq h, ← hbody, List.drop_left]
    have hdecodes := decodes_u32 (crc32c (encodeFrameHeader frame ++ frame.payload)) []
    rwa [List.append_nil] at hdecodes
  have hpayload : (encodeFrameHeader frame ++ frame.payload).drop kWireHeaderSize =
      frame.payload := by
    rw [← length_encodeFrameHeader frame, List.drop_left]
  simp only [decodeFrame, hheader, Except.bind, bind, toNat_payloadLen h, hlength, if_false, htake,
    hcrc, ne_eq, not_true_eq_false, hpayload]
  rfl

theorem recvFrame_encodeFrame (h : frame.payload.length ≤ kWireMaxPayloadBytes) :
    recvFrame (encodeFrame frame) = .ok (frame, []) := by
  have hlength := length_encodeFrame h
  have hlong : ¬(encodeFrame frame).length < kWireHeaderSize := by omega
  have htotal : ¬(encodeFrame frame).length <
      kWireHeaderSize + frame.payload.length + kWireCrcSize := by omega
  have hheader : decodeFrameHeader ((encodeFrame frame).take kWireHeaderSize) =
      .ok (headerOf frame) := by
    have htake : (encodeFrame frame).take kWireHeaderSize = encodeFrameHeader frame ++ [] := by
      rw [encodeFrame_eq h, List.append_assoc, ← length_encodeFrameHeader frame, List.take_left,
        List.append_nil]
    rw [htake]
    exact decodeFrameHeader_append h []
  have htake : (encodeFrame frame).take
      (kWireHeaderSize + frame.payload.length + kWireCrcSize) = encodeFrame frame :=
    List.take_of_length_le (Nat.le_of_eq hlength)
  have hdrop : (encodeFrame frame).drop
      (kWireHeaderSize + frame.payload.length + kWireCrcSize) = [] :=
    List.drop_of_length_le (Nat.le_of_eq hlength)
  simp only [recvFrame, hlong, if_false, hheader, toNat_payloadLen h, htotal, htake,
    decodeFrame_encodeFrame h, hdrop]

theorem encodeFrame_ne_nil (h : frame.payload.length ≤ kWireMaxPayloadBytes) :
    (encodeFrame frame).isEmpty = false := by
  cases hencoded : encodeFrame frame with
  | nil =>
    have hlength := length_encodeFrame h
    rw [hencoded] at hlength
    simp only [List.length_nil, kWireHeaderSize] at hlength
    omega
  | cons => rfl

end Frames

theorem decodeMessage_of_decodes {α : Type} {reader : Reader α} {bytes : Bytes} {message : α}
    (h : Decodes reader bytes message) : decodeMessage reader bytes = some message := by
  have hread := h []
  rw [List.append_nil] at hread
  rw [decodeMessage, hread]

theorem decodes_wireText {text : Text} {bytes : Bytes} (h : wireText text = some bytes) :
    Decodes getWireText bytes text := by
  unfold wireText at h
  split at h
  · cases h
  · next hshort =>
    cases h
    simp only [Bool.or_eq_true, decide_eq_true_eq, not_or, Nat.not_lt] at hshort
    have hlen : (UInt16.ofNat text.length).toNat = text.length := by
      apply UInt16.toNat_ofNat_of_lt'
      simp only [UInt16.size]
      omega
    refine (decodes_u16 _).bind (.check ?_ ?_)
    · rw [hlen]
      exact decide_eq_true hshort.1
    · rw [hlen]
      exact decodes_raw text

theorem wireText_of_length {text : Text} (h : text.length ≤ kWireMaxTextBytes) :
    ∃ bytes, wireText text = some bytes ∧ bytes.length = 2 + text.length := by
  have hshort : ¬(kWireMaxTextBytes < text.length || 0xFFFF < text.length) = true := by
    rw [Bool.or_eq_true, decide_eq_true_eq, decide_eq_true_eq]
    simp only [kWireMaxTextBytes] at h ⊢
    rintro (hlong | hlong) <;> omega
  refine ⟨_, if_neg hshort, ?_⟩
  rw [List.length_append, putU16_length]

/-- What the encoding of a message has to be for the message to arrive. -/
def Carries {α : Type} (reader : Reader α) (payload : Bytes) (message : α) : Prop :=
  payload.length ≤ kWireMaxPayloadBytes ∧ payload.isEmpty = false ∧
    decodeMessage reader payload = some message

theorem isEmpty_flatten_putU64 (value : U64) (fields : List Bytes) :
    (putU64 value :: fields).flatten.isEmpty = false := by
  have hlength := putU64_length value
  cases hfirst : putU64 value with
  | nil =>
    rw [hfirst] at hlength
    cases hlength
  | cons byte bytes => rfl

section Requests

theorem carries_applyRequest (message : ApplyRequestMessage) :
    Carries decodeApplyRequest (encodeApplyRequest message) message := by
  refine ⟨?_, isEmpty_flatten_putU64 _ _, decodeMessage_of_decodes ?_⟩
  · simp only [encodeApplyRequest, List.flatten_cons, List.flatten_nil, List.length_append,
      putU8_length, putU16_length, putU64_length, putEnum_length, List.length_nil,
      kWireMaxPayloadBytes]
    omega
  · exact (decodes_u64 _).field <| (decodes_u64 _).field <| (decodes_u64 _).field <|
      (decodes_u64 _).field <| (decodes_u64 _).field <| (decodes_enum _).field <|
      (decodes_u8 _).field <| (decodes_u16 _).field <| (decodes_u64 _).field <|
      (decodes_u64 _).field <| (decodes_u64 _).field <| .check rfl <| .done rfl

theorem carries_revokeRequest (message : RevokeRequestMessage) :
    Carries decodeRevokeRequest (encodeRevokeRequest message) message := by
  refine ⟨?_, isEmpty_flatten_putU64 _ _, decodeMessage_of_decodes ?_⟩
  · simp only [encodeRevokeRequest, List.flatten_cons, List.flatten_nil, List.length_append,
      putU16_length, putU32_length, putU64_length, putReason_length, List.length_nil,
      kWireMaxPayloadBytes]
    omega
  · exact (decodes_u64 _).field <| (decodes_u64 _).field <| (decodes_u64 _).field <|
      (decodes_u64 _).field <| (decodes_u64 _).field <| (decodes_reason _).field <|
      (decodes_u16 _).field <| (decodes_u32 _).field <| .check rfl <| .done rfl

theorem carries_verifyRequest (message : VerifyRequestMessage) :
    Carries decodeVerifyRequest (encodeVerifyRequest message) message := by
  refine ⟨?_, isEmpty_flatten_putU64 _ _, decodeMessage_of_decodes ?_⟩
  · simp only [encodeVerifyRequest, List.flatten_cons, List.flatten_nil, List.length_append,
      putU64_length, List.length_nil, kWireMaxPayloadBytes]
    omega
  · exact (decodes_u64 _).field <| (decodes_u64 _).field <| (decodes_u64 _).field <|
      (decodes_u64 _).field <| (decodes_u64 _).field <| .done rfl

end Requests

section Responses

theorem carries_applyResponse {message : ApplyResponseMessage}
    (h : message.detail.length ≤ kWireMaxTextBytes) :
    Carries decodeApplyResponse (encodeApplyResponse message) message := by
  obtain ⟨detail, hdetail, hlength⟩ := wireText_of_length h
  simp only [encodeApplyResponse, hdetail]
  refine ⟨?_, isEmpty_flatten_putU64 _ _, decodeMessage_of_decodes ?_⟩
  · simp only [List.flatten_cons, List.flatten_nil, List.length_append, putU8_length,
      putU32_length, putU64_length, putReason_length, putBool_length, List.length_nil, hlength,
      kWireMaxPayloadBytes, kWireMaxTextBytes] at h ⊢
    omega
  · refine (decodes_u64 _).field <| (decodes_flag _).field <| (decodes_u8 _).field <|
      (decodes_reason _).field <| (decodes_u32 _).field <| (decodes_u64 _).field <|
      (decodes_u64 _).field <| (decodes_u64 _).field <| (decodes_u64 _).field <|
      (decodes_wireText hdetail).field <| .check ?_ <| .done ?_
    · simp only [flagByte_le_one, decide_true, Bool.and_self]
    · simp only [flagByte_eq_one, Bool.decide_eq_true]

theorem carries_revokeResponse {message : RevokeResponseMessage}
    (h : message.detail.length ≤ kWireMaxTextBytes) :
    Carries decodeRevokeResponse (encodeRevokeResponse message) message := by
  obtain ⟨detail, hdetail, hlength⟩ := wireText_of_length h
  simp only [encodeRevokeResponse, hdetail]
  refine ⟨?_, isEmpty_flatten_putU64 _ _, decodeMessage_of_decodes ?_⟩
  · simp only [List.flatten_cons, List.flatten_nil, List.length_append, putU8_length,
      putU32_length, putU64_length, putReason_length, putBool_length, List.length_nil, hlength,
      kWireMaxPayloadBytes, kWireMaxTextBytes] at h ⊢
    omega
  · refine (decodes_u64 _).field <| (decodes_flag _).field <| (decodes_u8 _).field <|
      (decodes_reason _).field <| (decodes_u32 _).field <| (decodes_u64 _).field <|
      (decodes_u64 _).field <| (decodes_wireText hdetail).field <| .check ?_ <| .done ?_
    · simp only [flagByte_le_one, decide_true, Bool.and_self]
    · simp only [flagByte_eq_one, Bool.decide_eq_true]

theorem carries_verifyResponse {message : VerifyResponseMessage}
    (h : message.detail.length ≤ kWireMaxTextBytes) :
    Carries decodeVerifyResponse (encodeVerifyResponse message) message := by
  obtain ⟨detail, hdetail, hlength⟩ := wireText_of_length h
  simp only [encodeVerifyResponse, hdetail]
  refine ⟨?_, isEmpty_flatten_putU64 _ _, decodeMessage_of_decodes ?_⟩
  · simp only [List.flatten_cons, List.flatten_nil, List.length_append, putU8_length,
      putU32_length, putU64_length, putReason_length, putBool_length, List.length_nil, hlength,
      kWireMaxPayloadBytes, kWireMaxTextBytes] at h ⊢
    omega
  · refine (decodes_u64 _).field <| (decodes_flag _).field <| (decodes_u8 _).field <|
      (decodes_reason _).field <| (decodes_u32 _).field <| (decodes_u64 _).field <|
      (decodes_u64 _).field <| (decodes_u64 _).field <| (decodes_u64 _).field <|
      (decodes_wireText hdetail).field <| .check ?_ <| .done ?_
    · simp only [flagByte_le_one, decide_true, Bool.and_self]
    · simp only [flagByte_eq_one, Bool.decide_eq_true]

theorem carries_hello {message : HelloMessage} (hlabel : message.label.length ≤ kWireMaxTextBytes)
    (hbuild : message.build.length ≤ kWireMaxTextBytes) :
    Carries decodeHello (encodeHello message) message := by
  obtain ⟨label, hlabel', hlength⟩ := wireText_of_length hlabel
  obtain ⟨build, hbuild', hlength'⟩ := wireText_of_length hbuild
  simp only [encodeHello, hlabel', hbuild']
  refine ⟨?_, isEmpty_flatten_putU64 _ _, decodeMessage_of_decodes ?_⟩
  · simp only [List.flatten_cons, List.flatten_nil, List.length_append, putU16_length,
      putU32_length, putU64_length, putEnum_length, List.length_nil, hlength, hlength',
      kWireMaxPayloadBytes, kWireMaxTextBytes, ← Nat.add_assoc, Nat.reduceAdd] at hlabel hbuild ⊢
    omega
  · exact (decodes_u64 _).field <| (decodes_u64 _).field <| (decodes_u64 _).field <|
      (decodes_u64 _).field <| (decodes_enum _).field <| (decodes_enum _).field <|
      (decodes_u16 _).field <| (decodes_u32 _).field <| (decodes_u64 _).field <|
      (decodes_u64 _).field <| (decodes_u64 _).field <| (decodes_u64 _).field <|
      (decodes_u64 _).field <| (decodes_u64 _).field <| (decodes_u32 _).field <|
      (decodes_u32 _).field <| .check rfl <| (decodes_wireText hlabel').field <|
      (decodes_wireText hbuild').field <| .done rfl

theorem carries_accountingResponse (message : AccountingResponseMessage) :
    Carries decodeAccountingResponse (encodeAccountingResponse message) message := by
  refine ⟨?_, isEmpty_flatten_putU64 _ _, decodeMessage_of_decodes ?_⟩
  · simp only [encodeAccountingResponse, List.flatten_cons, List.flatten_nil, List.length_append,
      putU64_length, List.length_nil, kWireMaxPayloadBytes]
    omega
  · iterate 16 refine (decodes_u64 _).field ?_
    exact .done rfl

theorem decodeMessage_encodeError {message : ErrorMessage}
    (h : message.detail.length ≤ kWireMaxTextBytes) :
    decodeMessage decodeError (encodeError message) = some message := by
  obtain ⟨detail, hdetail, -⟩ := wireText_of_length h
  simp only [encodeError, hdetail]
  refine decodeMessage_of_decodes ?_
  exact (decodes_reason _).field <| (decodes_u16 _).field <| (decodes_u32 _).field <|
    (decodes_wireText hdetail).field <| .check rfl <| .done rfl

theorem encodeHello_of_long {message : HelloMessage}
    (h : ¬(message.label.length ≤ kWireMaxTextBytes ∧ message.build.length ≤ kWireMaxTextBytes)) :
    encodeHello message = [] := by
  have htoo {text : Text} (hlong : ¬text.length ≤ kWireMaxTextBytes) : wireText text = none := by
    refine if_pos ?_
    rw [Bool.or_eq_true, decide_eq_true_eq]
    exact .inl (Nat.lt_of_not_le hlong)
  unfold encodeHello
  by_cases hlabel : message.label.length ≤ kWireMaxTextBytes
  · have hbuild : ¬message.build.length ≤ kWireMaxTextBytes := fun hbuild ↦ h ⟨hlabel, hbuild⟩
    rw [htoo hbuild]
    split
    · next hnone => cases hnone
    · rfl
  · rw [htoo hlabel]

theorem length_encodeError_le (message : ErrorMessage) :
    (encodeError message).length ≤ kWireMaxPayloadBytes := by
  unfold encodeError
  split
  · exact Nat.zero_le _
  · next detail hdetail =>
    unfold wireText at hdetail
    split at hdetail
    · cases hdetail
    · next hshort =>
      cases hdetail
      rw [Bool.or_eq_true, decide_eq_true_eq, not_or] at hshort
      have hbound := hshort.1
      simp only [List.flatten_cons, List.flatten_nil, List.length_append, putReason_length,
        putU16_length, putU32_length, List.length_nil, kWireMaxPayloadBytes,
        kWireMaxTextBytes] at hbound ⊢
      omega

end Responses

end RateGovernor.Dynamics.Messages
