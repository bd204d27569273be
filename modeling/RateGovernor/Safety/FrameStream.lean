import RateGovernor.Dynamics.Messages
import RateGovernor.Foundation.GuardedRun
import RateGovernor.Model.Ipc

namespace RateGovernor.Safety.FrameStream

open Model.CheckedMath Model.Identity Model.Reason Model.Entities Model.Wire Model.Ipc
open Foundation.ByteCodec Foundation.GuardedRun Dynamics.Messages

def Fits (frame : Frame) : Prop := frame.payload.length ≤ kWireMaxPayloadBytes

def filledBytes : ReceiveStage → Bytes
  | .idle => []
  | .header filled => filled
  | .body headerBytes _ filled => headerBytes ++ filled

def unsent (channel : Channel) : Bytes :=
  match channel.sending with
  | none => channel.abandoned
  | some (_, remaining) => remaining

/-- What has left the sender and has not been taken for a frame yet, with what never left it. -/
def stream (channel : Channel) : Bytes :=
  filledBytes channel.receiving ++ (channel.transit ++ (channel.lost ++ unsent channel))

def Filled : ReceiveStage → Prop
  | .idle => True
  | .header filled => filled.length ≤ kWireHeaderSize
  | .body headerBytes header filled => headerBytes.length = kWireHeaderSize ∧
    decodeFrameHeader headerBytes = .ok header ∧
      filled.length ≤ header.payloadLen.toNat + kWireCrcSize

/-- A receive is still waiting for bytes, and after the header it waits for what that announces. -/
def Waiting : ReceiveStage → Prop
  | .idle => True
  | .header filled => filled.length < kWireHeaderSize
  | .body headerBytes header filled => headerBytes.length = kWireHeaderSize ∧
    decodeFrameHeader headerBytes = .ok header ∧
      filled.length < header.payloadLen.toNat + kWireCrcSize

/-- The frames begun are those completed, but for a last one that is not all handed over. -/
def Completing (channel : Channel) : Prop :=
  match channel.sending with
  | some (frame, remaining) => channel.started = channel.completed ++ [frame] ∧ remaining ≠ [] ∧
    channel.abandoned = []
  | none => (channel.abandoned = [] ∧ channel.started = channel.completed) ∨
    (channel.abandoned ≠ [] ∧ channel.sender.valid = false ∧
      ∃ frame, channel.started = channel.completed ++ [frame])

/-- What is in the channel is what the frames begun and not yet delivered are encoded as. -/
def Contains (channel : Channel) : Prop :=
  ∃ later, channel.started = channel.delivered ++ later ∧
    stream channel = (later.map encodeFrame).flatten

/-- As long as no receive has failed, the channel contains the frames that are not yet delivered,
and every frame delivered was sent as a whole. -/
structure Sound (channel : Channel) : Prop where
  fits : ∀ frame ∈ channel.started, Fits frame
  completing : Completing channel
  whole : channel.broken = false → channel.lost = []
  orderly : ∀ failure ∈ channel.failures, failure.reason = .none
  delivered : channel.delivered <+: channel.completed
  active : channel.receiving ≠ .idle → channel.receiver.valid = true
  content : channel.receiver.valid = true → Contains channel

structure Faithful (channel : Channel) : Prop extends Sound channel where
  waiting : Waiting channel.receiving

section Frames

variable {frame : Frame}

theorem fits_of_encoded (h : (encodeFrame frame).isEmpty = false) : Fits frame := by
  by_contra hlong
  rw [encodeFrame, if_pos (Nat.lt_of_not_le hlong)] at h
  cases h

theorem length_pos_encodeFrame (h : Fits frame) : 0 < (encodeFrame frame).length := by
  rw [length_encodeFrame h, kWireCrcSize]
  omega

theorem prefix_of_flatten {α : Type} {front rest block : List α} {blocks : List (List α)}
    (h : front ++ rest = block ++ blocks.flatten) (hlength : front.length ≤ block.length) :
    front <+: block := by
  have hfront : front <+: block ++ blocks.flatten := h ▸ List.prefix_append front rest
  exact List.prefix_of_prefix_length_le hfront (List.prefix_append block _) hlength

theorem header_of_begins {bytes : Bytes} (h : Fits frame) (hbegins : bytes <+: encodeFrame frame)
    (hlength : bytes.length = kWireHeaderSize) : decodeFrameHeader bytes = .ok (headerOf frame) := by
  have hheader : encodeFrameHeader frame <+: encodeFrame frame := by
    rw [encodeFrame_eq h, List.append_assoc]
    exact List.prefix_append _ _
  have hsame : bytes = encodeFrameHeader frame ++ [] := by
    rw [List.append_nil]
    have hlengths : bytes.length = (encodeFrameHeader frame).length := by
      rw [hlength, length_encodeFrameHeader]
    exact (List.prefix_of_prefix_length_le hbegins hheader hlengths.le).eq_of_length hlengths
  rw [hsame]
  exact decodeFrameHeader_append h []

end Frames

section Receiving

variable {channel : Channel} {later : List Frame}

theorem exists_of_filled (hstream : stream channel = (later.map encodeFrame).flatten)
    (hfilled : filledBytes channel.receiving ≠ []) :
    ∃ frame rest, later = frame :: rest ∧ stream channel =
      encodeFrame frame ++ (rest.map encodeFrame).flatten := by
  cases later with
  | nil =>
    have hnil := (List.append_eq_nil_iff.mp hstream).1
    exact absurd hnil hfilled
  | cons frame rest => exact ⟨frame, rest, rfl, hstream⟩

theorem delivered_begins (hcompleting : Completing channel) (hcontent : Contains channel) :
    channel.delivered <+: channel.completed := by
  obtain ⟨later, hstarted, hstream⟩ := hcontent
  have hlater : ∀ frame, channel.started = channel.completed ++ [frame] → unsent channel ≠ [] →
      channel.delivered <+: channel.completed := by
    intro frame hlast hunsent
    have hdelivered : channel.delivered <+: channel.completed ++ [frame] :=
      hlast ▸ hstarted ▸ List.prefix_append _ _
    rcases List.prefix_concat_iff.mp hdelivered with hall | hbegins
    · have hnone : later = [] := by
        rw [hlast, hall, List.self_eq_append_right] at hstarted
        exact hstarted
      rw [hnone] at hstream
      have hrest := (List.append_eq_nil_iff.mp hstream).2
      have hunsent' := (List.append_eq_nil_iff.mp (List.append_eq_nil_iff.mp hrest).2).2
      exact absurd hunsent' hunsent
    · exact hbegins
  cases hsending : channel.sending with
  | some pair =>
    obtain ⟨frame, remaining⟩ := pair
    simp only [Completing, hsending] at hcompleting
    refine hlater frame hcompleting.1 ?_
    simp only [unsent, hsending]
    exact hcompleting.2.1
  | none =>
    simp only [Completing, hsending] at hcompleting
    rcases hcompleting with ⟨-, hsame⟩ | ⟨habandoned, -, frame, hlast⟩
    · rw [← hsame, hstarted]
      exact List.prefix_append _ _
    · refine hlater frame hlast ?_
      simp only [unsent, hsending]
      exact habandoned

theorem received_header {filled : Bytes} (h : Sound channel)
    (hstage : channel.receiving = .header filled)
    (hfilled : filled.length = kWireHeaderSize) : Faithful channel.received := by
  have hvalid : channel.receiver.valid = true := h.active (by rw [hstage]; nofun)
  obtain ⟨later, hstarted, hstream⟩ := h.content hvalid
  have hnonempty : filledBytes channel.receiving ≠ [] := by
    rw [hstage]
    rintro rfl
    cases hfilled
  obtain ⟨frame, rest, rfl, hblocks⟩ := exists_of_filled hstream hnonempty
  have hfits : Fits frame := h.fits frame (hstarted ▸ List.mem_append_right _ List.mem_cons_self)
  have hbegins : filled <+: encodeFrame frame := by
    rw [stream, hstage] at hblocks
    refine prefix_of_flatten hblocks ?_
    rw [hfilled, length_encodeFrame hfits, Nat.add_assoc]
    exact Nat.le_add_right _ _
  have hheader := header_of_begins hfits hbegins hfilled
  have hreceived : channel.received =
      { channel with receiving := .body filled (headerOf frame) [] } := by
    simp only [Channel.received, hstage, hheader, hfilled, Nat.lt_irrefl, if_false]
  rw [hreceived]
  refine ⟨⟨h.fits, h.completing, h.whole, h.orderly, h.delivered, fun _ ↦ hvalid, fun _ ↦
    ⟨_, hstarted, ?_⟩⟩, hfilled, hheader, ?_⟩
  · rw [← hstream, stream, stream, hstage, filledBytes, filledBytes, List.append_nil]
    rfl
  · rw [List.length_nil, kWireCrcSize]
    omega

/-- A body that has been filled in completes the frame, and what remains belongs to later ones. -/
theorem received_body {headerBytes filled : Bytes} {header : FrameHeader} (h : Sound channel)
    (hstage : channel.receiving = .body headerBytes header filled)
    (hlength : headerBytes.length = kWireHeaderSize)
    (hheader : decodeFrameHeader headerBytes = .ok header)
    (hfilled : filled.length = header.payloadLen.toNat + kWireCrcSize) :
    Faithful channel.received := by
  have hvalid : channel.receiver.valid = true := h.active (by rw [hstage]; nofun)
  obtain ⟨later, hstarted, hstream⟩ := h.content hvalid
  have hnonempty : filledBytes channel.receiving ≠ [] := by
    rw [hstage]
    intro hnil
    rw [(List.append_eq_nil_iff.mp hnil).1] at hlength
    cases hlength
  obtain ⟨frame, rest, rfl, hblocks⟩ := exists_of_filled hstream hnonempty
  have hfits : Fits frame := h.fits frame (hstarted ▸ List.mem_append_right _ List.mem_cons_self)
  rw [stream, hstage, filledBytes] at hblocks
  have hbegins : headerBytes <+: encodeFrame frame := by
    rw [List.append_assoc] at hblocks
    refine prefix_of_flatten hblocks ?_
    rw [hlength, length_encodeFrame hfits, Nat.add_assoc]
    exact Nat.le_add_right _ _
  have hsame : header = headerOf frame := by
    have hannounced := header_of_begins hfits hbegins hlength
    rw [hheader] at hannounced
    exact Except.ok.inj hannounced
  have hwhole : (headerBytes ++ filled).length = (encodeFrame frame).length := by
    rw [List.length_append, hlength, hfilled, hsame, toNat_payloadLen hfits,
      length_encodeFrame hfits, Nat.add_assoc]
  obtain ⟨hframe, hrest⟩ := List.append_inj hblocks hwhole
  have hdecode : decodeFrame (headerBytes ++ filled) = .ok frame := by
    rw [hframe]
    exact decodeFrame_encodeFrame hfits
  have hreceived : channel.received =
      { channel with
        receiving := .idle
        receiver :=
          { channel.receiver with framesReceived := channel.receiver.framesReceived + 1 }
        delivered := channel.delivered ++ [frame] } := by
    simp only [Channel.received, hstage, hdecode, hfilled, Nat.lt_irrefl, if_false]
  have hcontent : Contains channel.received := by
    rw [hreceived]
    refine ⟨rest, ?_, hrest⟩
    rw [hstarted, List.append_assoc, List.singleton_append]
  have hcompleting : Completing channel.received := by
    rw [hreceived]
    exact h.completing
  have hdelivered := delivered_begins hcompleting hcontent
  rw [hreceived] at hcontent hdelivered ⊢
  exact ⟨⟨h.fits, h.completing, h.whole, h.orderly, hdelivered, fun _ ↦ hvalid, fun _ ↦ hcontent⟩,
    trivial⟩

theorem received_faithful (h : Sound channel) (hfilled : Filled channel.receiving) :
    Faithful channel.received := by
  cases hstage : channel.receiving with
  | idle =>
    have hsame : channel.received = channel := by rw [Channel.received, hstage]
    rw [hsame]
    exact ⟨h, by rw [hstage]; trivial⟩
  | header filled =>
    rw [hstage] at hfilled
    rcases Nat.lt_or_eq_of_le hfilled with hless | hfull
    · have hsame : channel.received = channel := by
        simp only [Channel.received, hstage, hless, if_true]
      rw [hsame]
      exact ⟨h, by rw [hstage]; exact hless⟩
    · exact received_header h hstage hfull
  | body headerBytes header filled =>
    rw [hstage] at hfilled
    obtain ⟨hlength, hheader, hbound⟩ := hfilled
    rcases Nat.lt_or_eq_of_le hbound with hless | hfull
    · have hsame : channel.received = channel := by
        simp only [Channel.received, hstage, hless, if_true]
      rw [hsame]
      exact ⟨h, by rw [hstage]; exact ⟨hlength, hheader, hless⟩⟩
    · exact received_body h hstage hlength hheader hfull

end Receiving

section Steps

variable {channel next : Channel}

theorem Faithful.fail {failure : TransportError} (h : Faithful channel)
    (hreason : failure.reason = .none) : Faithful (channel.failReceive failure) := by
  refine ⟨⟨h.fits, h.completing, h.whole, ?_, h.delivered, nofun, nofun⟩, trivial⟩
  intro other hother
  rcases List.mem_append.mp hother with hold | hnew
  · exact h.orderly other hold
  · rw [List.mem_singleton.mp hnew]
    exact hreason

theorem sendFrame_faithful {frame : Frame} (h : Faithful channel)
    (hs : channel.sendFrame frame = some next) : Faithful next := by
  simp only [Channel.sendFrame] at hs
  split at hs
  · cases hs
  · next hready =>
    simp only [Bool.not_eq_true, Bool.or_eq_false_iff, Option.isSome_eq_false_iff,
      Option.isNone_iff_eq_none] at hready
    obtain ⟨hsending, hopen⟩ := hready
    have hcompleting := h.completing
    simp only [Completing, hsending] at hcompleting
    have hsame : channel.abandoned = [] ∧ channel.started = channel.completed := by
      rcases hcompleting with hsame | ⟨-, hclosed, -⟩
      · exact hsame
      · rw [hclosed] at hopen
        cases hopen
    split at hs
    · cases hs
      refine ⟨⟨h.fits, ?_, h.whole, h.orderly, h.delivered, h.active, h.content⟩, h.waiting⟩
      simp only [Completing, hsending]
      exact .inl hsame
    · next hencoded =>
      cases hs
      have hfits := fits_of_encoded (Bool.eq_false_iff.mpr hencoded)
      refine ⟨⟨?_, ?_, h.whole, h.orderly, h.delivered, h.active, fun hvalid ↦ ?_⟩, h.waiting⟩
      · intro other hother
        rcases List.mem_append.mp hother with hold | hnew
        · exact h.fits other hold
        · rw [List.mem_singleton.mp hnew]
          exact hfits
      · refine ⟨by rw [hsame.2], ?_, hsame.1⟩
        intro hnil
        rw [hnil] at hencoded
        exact hencoded rfl
      · obtain ⟨later, hstarted, hstream⟩ := h.content hvalid
        refine ⟨later ++ [frame], ?_, ?_⟩
        · rw [hstarted, List.append_assoc]
        · rw [List.map_append, List.flatten_append, ← hstream]
          simp only [stream, unsent, hsending, hsame.1, List.append_nil, List.append_assoc,
            List.map_cons, List.map_nil, List.flatten_cons, List.flatten_nil]

theorem sendChunk_faithful {count : ℕ} (h : Faithful channel)
    (hs : channel.sendChunk count = some next) : Faithful next := by
  simp only [Channel.sendChunk] at hs
  split at hs
  · cases hs
  · next frame remaining hsending =>
    split at hs
    · cases hs
    · next hready =>
      simp only [not_or] at hready
      obtain ⟨-, hbound, hwhole, -⟩ := hready
      have hlost : channel.lost = [] := h.whole (by simpa using hwhole)
      have hcompleting := h.completing
      simp only [Completing, hsending] at hcompleting
      obtain ⟨hstarted, hnonempty, habandoned⟩ := hcompleting
      split at hs
      · next hall =>
        cases hs
        refine ⟨⟨h.fits, ?_, h.whole, h.orderly, ?_, h.active, fun hvalid ↦ ?_⟩, h.waiting⟩
        · exact .inl ⟨habandoned, hstarted⟩
        · exact h.delivered.trans (List.prefix_append _ _)
        · obtain ⟨later, hlater, hstream⟩ := h.content hvalid
          refine ⟨later, hlater, ?_⟩
          rw [← hstream]
          simp only [stream, unsent, hsending, habandoned, hlost, ← hall, List.take_length,
            List.nil_append, List.append_nil]
      · next hsome =>
        cases hs
        refine ⟨⟨h.fits, ?_, h.whole, h.orderly, h.delivered, h.active, fun hvalid ↦ ?_⟩, h.waiting⟩
        · refine ⟨hstarted, ?_, habandoned⟩
          intro hnil
          have hlength := List.drop_eq_nil_iff.mp hnil
          omega
        · obtain ⟨later, hlater, hstream⟩ := h.content hvalid
          refine ⟨later, hlater, ?_⟩
          rw [← hstream]
          simp only [stream, unsent, hsending, hlost, List.append_assoc, List.nil_append,
            List.take_append_drop]

theorem sendError_faithful (h : Faithful channel) (hs : channel.sendError = some next) :
    Faithful next := by
  obtain ⟨⟨frame, remaining⟩, hsending, rfl⟩ := Option.map_eq_some_iff.mp hs
  have hcompleting := h.completing
  simp only [Completing, hsending] at hcompleting
  obtain ⟨hstarted, hnonempty, -⟩ := hcompleting
  refine ⟨⟨h.fits, ?_, h.whole, h.orderly, h.delivered, h.active, fun hvalid ↦ ?_⟩, h.waiting⟩
  · exact .inr ⟨hnonempty, rfl, frame, hstarted⟩
  · obtain ⟨later, hlater, hstream⟩ := h.content hvalid
    refine ⟨later, hlater, ?_⟩
    rw [← hstream]
    simp only [stream, unsent, hsending]

theorem recvFrame_faithful (h : Faithful channel) (hs : channel.recvFrame = some next) :
    Faithful next := by
  simp only [Channel.recvFrame] at hs
  split at hs
  · next hidle =>
    split at hs
    · next hvalid =>
      cases hs
      refine ⟨⟨h.fits, h.completing, h.whole, h.orderly, h.delivered, fun _ ↦ hvalid, fun _ ↦ ?_⟩, ?_⟩
      · obtain ⟨later, hlater, hstream⟩ := h.content hvalid
        refine ⟨later, hlater, ?_⟩
        rw [← hstream]
        simp only [stream, filledBytes, hidle]
        rfl
      · exact Nat.zero_lt_succ _
    · cases hs
      exact h.fail rfl
  · cases hs

theorem fill_filled {bytes : Bytes} (h : Waiting channel.receiving)
    (hbound : bytes.length ≤ channel.wanted) : Filled (channel.fill bytes) := by
  unfold Channel.wanted at hbound
  unfold Channel.fill
  cases hstage : channel.receiving with
  | idle => trivial
  | header filled =>
    simp only [hstage] at h hbound ⊢
    simp only [Waiting] at h
    simp only [Filled, List.length_append]
    omega
  | body headerBytes header filled =>
    simp only [hstage] at h hbound ⊢
    obtain ⟨hlength, hheader, hless⟩ := h
    refine ⟨hlength, hheader, ?_⟩
    rw [List.length_append]
    omega

theorem filledBytes_fill {bytes : Bytes} (h : channel.receiving ≠ .idle) :
    filledBytes (channel.fill bytes) = filledBytes channel.receiving ++ bytes := by
  unfold Channel.fill
  cases hstage : channel.receiving with
  | idle => exact absurd hstage h
  | header filled => rfl
  | body headerBytes header filled => exact (List.append_assoc _ _ _).symm

theorem recvChunk_faithful {count : ℕ} (h : Faithful channel)
    (hs : channel.recvChunk count = some next) : Faithful next := by
  simp only [Channel.recvChunk] at hs
  split at hs
  · cases hs
  · next hready =>
    cases hs
    simp only [not_or, Nat.not_lt] at hready
    obtain ⟨hsome, hwanted, htransit⟩ := hready
    have hactive : channel.receiving ≠ .idle := by
      intro hidle
      simp only [Channel.wanted, hidle] at hwanted
      omega
    have hvalid := h.active hactive
    have htaken : (channel.transit.take count).length ≤ channel.wanted := by
      rw [List.length_take]
      omega
    refine received_faithful ⟨h.fits, h.completing, h.whole, h.orderly, h.delivered,
      fun _ ↦ hvalid, fun _ ↦ ?_⟩ (fill_filled h.waiting htaken)
    obtain ⟨later, hlater, hstream⟩ := h.content hvalid
    refine ⟨later, hlater, ?_⟩
    rw [← hstream]
    simp only [stream, filledBytes_fill hactive, List.append_assoc]
    rw [← List.append_assoc (channel.transit.take count), List.take_append_drop]
    rfl

theorem faithful_step {event : Event} (h : Faithful channel)
    (hs : channel.step event = some next) : Faithful next := by
  cases event with
  | sendFrame frame => exact sendFrame_faithful h hs
  | sendChunk count => exact sendChunk_faithful h hs
  | sendError => exact sendError_faithful h hs
  | recvFrame => exact recvFrame_faithful h hs
  | recvChunk count => exact recvChunk_faithful h hs
  | recvError error =>
    simp only [Channel.step] at hs
    split at hs
    · cases hs
      exact h.fail rfl
    · cases hs
  | recvClosed =>
    simp only [Channel.step] at hs
    split at hs
    · cases hs
      exact h.fail rfl
    · cases hs
  | closeSender =>
    cases hs
    refine ⟨⟨h.fits, ?_, h.whole, h.orderly, h.delivered, h.active, h.content⟩, h.waiting⟩
    have hcompleting := h.completing
    cases hsending : channel.sending with
    | none =>
      simp only [Completing, hsending] at hcompleting ⊢
      exact hcompleting.imp_right fun ⟨habandoned, _, hlast⟩ ↦ ⟨habandoned, rfl, hlast⟩
    | some pair =>
      simp only [Completing, hsending] at hcompleting ⊢
      exact hcompleting
  | closeReceiver =>
    simp only [Channel.step] at hs
    split at hs
    · cases hs
    · next hidle =>
      cases hs
      refine ⟨⟨h.fits, h.completing, h.whole, h.orderly, h.delivered, fun hactive ↦ ?_, nofun⟩,
        h.waiting⟩
      have hreceives : channel.receives = true := by
        unfold Channel.receives
        split
        · next hstage => exact absurd hstage hactive
        · rfl
      exact absurd hreceives hidle
  | cut kept =>
    simp only [Channel.step] at hs
    split at hs
    · cases hs
    · next hunbroken =>
      cases hs
      have hlost : channel.lost = [] := h.whole (by simpa using hunbroken)
      refine ⟨⟨h.fits, h.completing, nofun, h.orderly, h.delivered, h.active, fun hvalid ↦ ?_⟩,
        h.waiting⟩
      obtain ⟨later, hlater, hstream⟩ := h.content hvalid
      refine ⟨later, hlater, ?_⟩
      rw [← hstream]
      simp only [stream, hlost, List.nil_append]
      rw [← List.append_assoc (channel.transit.take kept), List.take_append_drop]
      rfl

end Steps

section Counters

variable {channel next : Channel}

/-- The counters of the two sockets, against what has passed between them. -/
structure Counted (channel : Channel) : Prop where
  framesSent : channel.sender.framesSent = UInt64.ofNat channel.completed.length
  framesReceived : channel.receiver.framesReceived = UInt64.ofNat channel.delivered.length
  bytes : channel.sender.bytesSent = channel.receiver.bytesReceived +
    UInt64.ofNat (channel.transit.length + channel.lost.length)

theorem received_counted (h : Counted channel) : Counted channel.received := by
  unfold Channel.received
  split
  · exact h
  · split
    · exact h
    · split <;> exact ⟨h.framesSent, h.framesReceived, h.bytes⟩
  · split
    · exact h
    · split
      · exact ⟨h.framesSent, h.framesReceived, h.bytes⟩
      · refine ⟨h.framesSent, ?_, h.bytes⟩
        simp only [h.framesReceived, List.length_append, List.length_singleton, UInt64.ofNat_add]
        rfl

theorem sendChunk_counted {count : ℕ} (h : Counted channel)
    (hs : channel.sendChunk count = some next) : Counted next := by
  simp only [Channel.sendChunk] at hs
  split at hs
  · cases hs
  · next frame remaining hsending =>
    split at hs
    · cases hs
    · next hready =>
      simp only [not_or] at hready
      have htake : (remaining.take count).length = count := by
        rw [List.length_take]
        omega
      have hbytes : channel.sender.bytesSent + UInt64.ofNat count =
          channel.receiver.bytesReceived + UInt64.ofNat
            ((channel.transit ++ remaining.take count).length + channel.lost.length) := by
        rw [h.bytes, List.length_append, htake, UInt64.add_assoc, ← UInt64.ofNat_add]
        congr 2
        omega
      split at hs
      · cases hs
        refine ⟨?_, h.framesReceived, hbytes⟩
        simp only [h.framesSent, List.length_append, List.length_singleton, UInt64.ofNat_add]
        rfl
      · cases hs
        exact ⟨h.framesSent, h.framesReceived, hbytes⟩

theorem recvChunk_counted {count : ℕ} (h : Counted channel)
    (hs : channel.recvChunk count = some next) : Counted next := by
  simp only [Channel.recvChunk] at hs
  split at hs
  · cases hs
  · next hready =>
    cases hs
    simp only [not_or, Nat.not_lt] at hready
    refine received_counted ⟨h.framesSent, h.framesReceived, ?_⟩
    simp only [h.bytes, List.length_drop]
    rw [UInt64.add_assoc, ← UInt64.ofNat_add]
    congr 2
    omega

theorem counted_step {event : Event} (h : Counted channel)
    (hwhole : channel.broken = false → channel.lost = []) (hs : channel.step event = some next) :
    Counted next := by
  cases event with
  | sendFrame frame =>
    simp only [Channel.step, Channel.sendFrame] at hs
    split at hs
    · cases hs
    · split at hs <;> cases hs <;> exact ⟨h.framesSent, h.framesReceived, h.bytes⟩
  | sendChunk count => exact sendChunk_counted h hs
  | sendError =>
    obtain ⟨pair, -, rfl⟩ := Option.map_eq_some_iff.mp hs
    exact ⟨h.framesSent, h.framesReceived, h.bytes⟩
  | recvFrame =>
    simp only [Channel.step, Channel.recvFrame] at hs
    split at hs
    · split at hs <;> cases hs <;> exact ⟨h.framesSent, h.framesReceived, h.bytes⟩
    · cases hs
  | recvChunk count => exact recvChunk_counted h hs
  | recvError error =>
    simp only [Channel.step] at hs
    split at hs <;> cases hs
    exact ⟨h.framesSent, h.framesReceived, h.bytes⟩
  | recvClosed =>
    simp only [Channel.step] at hs
    split at hs <;> cases hs
    exact ⟨h.framesSent, h.framesReceived, h.bytes⟩
  | closeSender =>
    cases hs
    exact ⟨h.framesSent, h.framesReceived, h.bytes⟩
  | closeReceiver =>
    simp only [Channel.step] at hs
    split at hs <;> cases hs
    exact ⟨h.framesSent, h.framesReceived, h.bytes⟩
  | cut kept =>
    simp only [Channel.step] at hs
    split at hs
    · cases hs
    · next hunbroken =>
      cases hs
      have hlost := hwhole (by simpa using hunbroken)
      have hbytes := h.bytes
      rw [hlost, List.length_nil, Nat.add_zero] at hbytes
      refine ⟨h.framesSent, h.framesReceived, ?_⟩
      simp only [hbytes, ← List.length_append, List.take_append_drop]

end Counters

section Runs

variable {channel : Channel}

theorem faithful_new : Faithful {} :=
  ⟨⟨nofun, .inl ⟨rfl, rfl⟩, fun _ ↦ rfl, nofun, List.prefix_refl _, nofun, fun _ ↦ ⟨[], rfl, rfl⟩⟩,
    trivial⟩

theorem counted_new : Counted {} := ⟨rfl, rfl, rfl⟩

theorem eq_nil_of_flatten {frames : List Frame} (hfits : ∀ frame ∈ frames, Fits frame)
    (h : (frames.map encodeFrame).flatten = []) : frames = [] := by
  cases frames with
  | nil => rfl
  | cons frame frames =>
    have hpos := length_pos_encodeFrame (hfits frame List.mem_cons_self)
    have hnil := (List.append_eq_nil_iff.mp h).1
    rw [hnil] at hpos
    exact absurd hpos (Nat.lt_irrefl 0)

theorem unsent_of_stream (h : stream channel = []) : unsent channel = [] :=
  (List.append_eq_nil_iff.mp (List.append_eq_nil_iff.mp (List.append_eq_nil_iff.mp h).2).2).2

theorem completed_of_unsent (h : Completing channel) (hunsent : unsent channel = []) :
    channel.completed = channel.started := by
  cases hsending : channel.sending with
  | none =>
    simp only [Completing, hsending] at h
    simp only [unsent, hsending] at hunsent
    rcases h with ⟨-, hsame⟩ | ⟨hnonempty, -⟩
    · exact hsame.symm
    · exact absurd hunsent hnonempty
  | some pair =>
    simp only [Completing, hsending] at h
    simp only [unsent, hsending] at hunsent
    exact absurd hunsent h.2.1

/-- However the operating systems cut the bytes into pieces and wherever the connection breaks, the
frames received are the first of those whose send succeeded, each as it was sent and in order; no
receive takes the bytes for a malformed frame; and once the channel is empty all of them arrived. -/
theorem frames_arrive (h : Reaches Channel.step anyStep {} channel) :
    channel.delivered <+: channel.completed ∧
      (∀ failure ∈ channel.failures, failure.reason = .none) ∧
      (channel.receiver.valid = true → stream channel = [] →
        channel.delivered = channel.completed ∧ channel.completed = channel.started) ∧
      Counted channel := by
  obtain ⟨hfaithful, hcounted⟩ : Faithful channel ∧ Counted channel :=
    h.invariant (I := fun channel ↦ Faithful channel ∧ Counted channel) ⟨faithful_new, counted_new⟩
      fun _ _ _ hkept _ hs ↦
        ⟨faithful_step hkept.1 hs, counted_step hkept.2 hkept.1.whole hs⟩
  refine ⟨hfaithful.delivered, hfaithful.orderly, fun hvalid hempty ↦ ?_, hcounted⟩
  obtain ⟨later, hstarted, hstream⟩ := hfaithful.content hvalid
  rw [hempty] at hstream
  have hlater : ∀ frame ∈ later, Fits frame := fun frame hframe ↦
    hfaithful.fits frame (hstarted ▸ List.mem_append_right _ hframe)
  rw [eq_nil_of_flatten hlater hstream.symm, List.append_nil] at hstarted
  have hsame := completed_of_unsent hfaithful.completing (unsent_of_stream hempty)
  exact ⟨hstarted ▸ hsame.symm, hsame⟩

def heartbeat : Frame := { type := .heartbeatRequest }

/-- Two heartbeats are sent, the first in two pieces and the second cut off by a broken connection;
the receiver takes the first in three pieces. -/
def piecemeal : List Event :=
  [.sendFrame heartbeat, .sendChunk 5, .recvFrame, .recvChunk 3, .sendChunk 15, .recvChunk 13,
    .recvChunk 4, .sendFrame heartbeat, .sendChunk 20, .recvFrame, .cut 11, .recvChunk 11,
    .recvClosed]

theorem frames_arrive_piecemeal :
    (drive Channel.step {} piecemeal).delivered = [heartbeat] ∧
      (drive Channel.step {} piecemeal).delivered <+:
        (drive Channel.step {} piecemeal).completed := by
  have hreaches : Reaches Channel.step anyStep {} (drive Channel.step {} piecemeal) :=
    reaches_drive fun _ _ _ ↦ trivial
  exact ⟨by decide +kernel, (frames_arrive hreaches).1⟩

end Runs

end RateGovernor.Safety.FrameStream
