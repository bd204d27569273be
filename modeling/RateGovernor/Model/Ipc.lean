import RateGovernor.Model.IdentityText
import RateGovernor.Model.Wire

namespace RateGovernor.Model.Ipc

open CheckedMath Identity Reason Entities Wire Foundation.ByteCodec

structure Endpoint where
  host : Text := ascii "127.0.0.1"
  port : UInt16 := 0
  deriving DecidableEq

def Endpoint.toText (endpoint : Endpoint) : Text :=
  endpoint.host ++ colon :: decimal endpoint.port.toUInt64

/-- The position of the last colon, as `rfind` finds it. -/
def rfindColon (text : Text) : Option ℕ :=
  (text.reverse.findIdx? (· = colon)).map fun fromEnd ↦ text.length - 1 - fromEnd

def Endpoint.parse (text : Text) : Option Endpoint :=
  match rfindColon text with
  | none => none
  | some position =>
    if position = 0 ∨ text.length ≤ position + 1 then none
    else match parseU64Strict (text.drop (position + 1)) with
      | none => none
      | some port =>
        if 65535 < port then none
        else some { host := text.take position, port := port.toUInt16 }

structure Socket where
  valid : Bool := true
  bytesSent : U64 := 0
  bytesReceived : U64 := 0
  framesSent : U64 := 0
  framesReceived : U64 := 0

def Socket.close (socket : Socket) : Socket := { socket with valid := false }

/-- Where a call of `recv_frame` stands: filling the header, or what the header announces. -/
inductive ReceiveStage
  | idle
  | header (filled : Bytes)
  | body (headerBytes : Bytes) (header : FrameHeader) (filled : Bytes)

/-- One direction of a connection. `started` are the frames that were begun to be sent, `completed`
those whose send succeeded, `delivered` those a receive returned and `failures` the receives that
failed. `transit` is on its way; `lost` is what a broken connection took with it and `abandoned` the
rest of a frame whose send failed. -/
structure Channel where
  sender : Socket := {}
  sending : Option (Frame × Bytes) := none
  transit : Bytes := []
  broken : Bool := false
  receiver : Socket := {}
  receiving : ReceiveStage := .idle
  started : List Frame := []
  completed : List Frame := []
  delivered : List Frame := []
  failures : List TransportError := []
  lost : Bytes := []
  abandoned : Bytes := []

inductive Event
  | sendFrame (frame : Frame)
  | sendChunk (count : ℕ)
  | sendError
  | recvFrame
  | recvChunk (count : ℕ)
  | recvError (error : Text)
  | recvClosed
  | closeSender
  | closeReceiver
  | cut (kept : ℕ)

namespace Channel

/-- A call of `send_frame` begins. A frame that cannot be encoded is not sent, and the socket is
closed by the caller, as after every failure. -/
def sendFrame (channel : Channel) (frame : Frame) : Option Channel :=
  if channel.sending.isSome || !channel.sender.valid then none
  else if (encodeFrame frame).isEmpty then some { channel with sender := channel.sender.close }
  else
    some { channel with
      sending := some (frame, encodeFrame frame), started := channel.started ++ [frame] }

/-- One call of `send` takes some of the bytes that remain. -/
def sendChunk (channel : Channel) (count : ℕ) : Option Channel :=
  match channel.sending with
  | none => none
  | some (frame, remaining) =>
    if count = 0 ∨ remaining.length < count ∨ channel.broken ∨ !channel.sender.valid then none
    else
      let transit := channel.transit ++ remaining.take count
      let sender :=
        { channel.sender with bytesSent := channel.sender.bytesSent + UInt64.ofNat count }
      if remaining.length = count then
        some { channel with
          transit
          sender := { sender with framesSent := sender.framesSent + 1 }
          sending := none
          completed := channel.completed ++ [frame] }
      else some { channel with transit, sender, sending := some (frame, remaining.drop count) }

def sendError (channel : Channel) : Option Channel :=
  channel.sending.map fun (_, remaining) ↦
    { channel with sending := none, sender := channel.sender.close, abandoned := remaining }

/-- A receive that fails ends with its socket closed by the caller. -/
def failReceive (channel : Channel) (failure : TransportError) : Channel :=
  { channel with
    receiving := .idle
    receiver := channel.receiver.close
    failures := channel.failures ++ [failure] }

def recvFrame (channel : Channel) : Option Channel :=
  match channel.receiving with
  | .idle =>
    if channel.receiver.valid then some { channel with receiving := .header [] }
    else some (channel.failReceive { error := ascii "socket is not connected" })
  | _ => none

/-- The bytes `recv_exact` still waits for. -/
def wanted (channel : Channel) : ℕ :=
  match channel.receiving with
  | .idle => 0
  | .header filled => kWireHeaderSize - filled.length
  | .body _ header filled => header.payloadLen.toNat + kWireCrcSize - filled.length

/-- What the receive does with the bytes it has filled in by now. -/
def received (channel : Channel) : Channel :=
  match channel.receiving with
  | .idle => channel
  | .header filled =>
    if filled.length < kWireHeaderSize then channel
    else match decodeFrameHeader filled with
      | .error reason => channel.failReceive { error := ascii "frame header rejected", reason }
      | .ok header => { channel with receiving := .body filled header [] }
  | .body headerBytes header filled =>
    if filled.length < header.payloadLen.toNat + kWireCrcSize then channel
    else match decodeFrame (headerBytes ++ filled) with
      | .error reason => channel.failReceive { error := ascii "frame body rejected", reason }
      | .ok frame =>
        { channel with
          receiving := .idle
          receiver :=
            { channel.receiver with framesReceived := channel.receiver.framesReceived + 1 }
          delivered := channel.delivered ++ [frame] }

def fill (channel : Channel) (bytes : Bytes) : ReceiveStage :=
  match channel.receiving with
  | .idle => .idle
  | .header filled => .header (filled ++ bytes)
  | .body headerBytes header filled => .body headerBytes header (filled ++ bytes)

/-- One call of `recv` takes some of the bytes in transit, at most as many as are wanted. -/
def recvChunk (channel : Channel) (count : ℕ) : Option Channel :=
  if count = 0 ∨ channel.wanted < count ∨ channel.transit.length < count then none
  else
    let filled :=
      { channel with
        receiving := channel.fill (channel.transit.take count)
        transit := channel.transit.drop count
        receiver :=
          { channel.receiver with
            bytesReceived := channel.receiver.bytesReceived + UInt64.ofNat count } }
    some filled.received

def receives (channel : Channel) : Bool :=
  match channel.receiving with
  | .idle => false
  | _ => true

end Channel

/-- What the two ends, the operating system between them and the network do next. -/
def Channel.step (channel : Channel) : Event → Option Channel
  | .sendFrame frame => channel.sendFrame frame
  | .sendChunk count => channel.sendChunk count
  | .sendError => channel.sendError
  | .recvFrame => channel.recvFrame
  | .recvChunk count => channel.recvChunk count
  | .recvError error => if channel.receives then some (channel.failReceive { error }) else none
  | .recvClosed =>
    if channel.receives && channel.transit.isEmpty && (!channel.sender.valid || channel.broken) then
      some (channel.failReceive { error := ascii "peer closed the connection" })
    else none
  | .closeSender => some { channel with sender := channel.sender.close }
  -- a close under a receive is seen by that receive, as one of its failures
  | .closeReceiver =>
    if channel.receives then none else some { channel with receiver := channel.receiver.close }
  | .cut kept =>
    if channel.broken then none
    else
      some { channel with
        broken := true
        transit := channel.transit.take kept
        lost := channel.transit.drop kept }

end RateGovernor.Model.Ipc
