import Gelf.Deflate
import Gelf.World

/-!
# Gelf.Sender.Udp

Messages as datagrams: one, if the payload fits, else chunks. Payloads are compressed first where
that is wanted.

* `UdpSender.make`: resolves the host, opens a socket.
* `UdpSender.send`: true if the message was handed to the network. One that needs too many chunks
  is dropped.
* `UdpSender.close`: a socket whose closing fails stays open.
-/

namespace Gelf

def defaultChunkSize : Int := 8154

namespace UdpSender

def setOpen (isOpen : Bool) : Act Unit :=
  modify fun w => match w.sender with
    | some (.udp s) => { w with sender := some (.udp { s with isOpen := isOpen }) }
    | _ => w

def isOpenNow : Act Bool := do
  match (← get).sender with
  | some (.udp s) => return s.isOpen
  | _ => return false

def targetLine : String := "GELF UDP sender targeting %s:%s"

def oversizedLine : String := "Dropping oversized GELF message (%d bytes)"

def make (h : Hooks) (host port chunkSize wantsCompression : Value) : Act Unit := do
  if ← Act.ofExcept (chunkSize.atMostInt 0) then Act.fault Defect.chunkSizeNotPositive.toFault
  match ← Act.outward (Outside.resolve host port) with
  | [] => Act.fault (Defect.indexRange "list ").toFault
  | a :: _ =>
    Act.outward (Outside.socket a.family)
    modify fun w =>
      { w with sender := some (.udp ⟨host, port, chunkSize, wantsCompression, a.parts, true⟩) }
    Act.note .connected
    logLine h .udp targetLine [host, port]

/-- Sends one datagram, if the socket has not been closed in the meantime. -/
def sendDatagram (address : List Value) (datagram : Bytes) : Act Unit := do
  if ← isOpenNow then Act.outward (Outside.sendTo datagram address)
  else Act.fault (Defect.noAttribute "NoneType" "sendto").toFault

def sendEach (address : List Value) : List Bytes → Act Unit
  | [] => pure ()
  | d :: rest => do
    sendDatagram address d
    sendEach address rest

/-- The chunks of a payload. A size that is a float counts chunks but cannot cut them. -/
def cut (payload : Bytes) (chunkSize : Value) (id : Bytes) : Except Fault (List Bytes) :=
  match chunkSize.asInt?, chunkSize with
  | some n, _ => split payload n id
  | none, .float x =>
    if id.length ≠ 8 then raise .badMessageId
    else match Value.truncated (payload.length.toFloat / x).ceil with
      | .error f => .error f
      | .ok count =>
        if (maxChunks : Int) < count then raise (.tooManyChunks count.toNat) else raise .sliceIndex
  | none, _ => raise .sliceIndex

def payloadOf (wantsCompression : Value) (text : String) : Bytes :=
  let bytes := text.toUTF8.toList
  if wantsCompression.truthy then Deflate.compress bytes else bytes

/-- What a payload is sent as: by itself if it fits, else in chunks with an id. -/
def datagrams (s : UdpSender) (id payload : Bytes) : Except Fault (List Bytes) :=
  match s.chunkSize.atLeastInt payload.length with
  | .error f => .error f
  | .ok true => .ok [payload]
  | .ok false => cut payload s.chunkSize id

/-- Hands a payload to the network, if it can be sent at all. -/
def transmit (h : Hooks) (s : UdpSender) (payload : Bytes) : Act Value := do
  match s.datagrams (← get).outside.messageId payload with
  | .ok datagrams =>
    sendEach s.address datagrams
    return .bool true
  | .error f =>
    if f.isA "ValueError" then
      logLine h .udp oversizedLine [.int payload.length]
      return .bool false
    else Act.fault f

def send (h : Hooks) (s : UdpSender) (m : Message) : Act Value := do
  if !s.isOpen then return .bool false
  let text ← Act.words h m.encode
  Act.note (.encoded text)
  transmit h s (payloadOf s.wantsCompression text)

def close (s : UdpSender) : Act Unit := do
  if s.isOpen then
    Act.outward Outside.close
    setOpen false

end UdpSender

end Gelf
