import Gelf.World

/-!
# Gelf.Sender.Tcp

Messages on a stream, each with a null byte after it.

* `TcpSender.make`: connects.
* `TcpSender.send`: true if the message was written. A failed write gives the connection up, and
  the next message connects again.
* `TcpSender.close`: gives the connection up for good.
-/

namespace Gelf

namespace TcpSender

def modifyState (f : TcpSender → TcpSender) : Act Unit :=
  modify fun w => match w.sender with
    | some (.tcp s) => { w with sender := some (.tcp (f s)) }
    | _ => w

def isOpenNow : Act Bool := do
  match (← get).sender with
  | some (.tcp s) => return s.isOpen
  | _ => return false

def connectedLine : String := "GELF TCP sender connected to %s:%s"

def failedLine : String := "GELF TCP send to %s:%s failed"

def connect (h : Hooks) (host port timeout : Value) : Act Unit := do
  Act.outward (Outside.connect host port timeout)
  modifyState fun s => { s with isOpen := true }
  Act.note .connected
  logLine h .tcp connectedLine [host, port]

def make (h : Hooks) (host port timeout : Value) : Act Unit := do
  modify fun w => { w with sender := some (.tcp ⟨host, port, timeout, false, false⟩) }
  connect h host port timeout

/-- Gives the connection up; it is gone even where closing it fails. -/
def drop : Act Unit := do
  if ← isOpenNow then
    Act.tidied (Act.outward Outside.close) fun w => match w.sender with
      | some (.tcp s) => { w with sender := some (.tcp { s with isOpen := false }) }
      | _ => w

def delimiter : UInt8 := 0

/-- Writes on the connection there is, or on a new one. -/
def writeOut (h : Hooks) (s : TcpSender) (bytes : Bytes) : Act Unit := do
  if !(← isOpenNow) then connect h s.host s.port s.timeout
  Act.outward (Outside.sendAll bytes)

/-- After a failed write nothing more goes out on the connection. -/
def giveUp (h : Hooks) (s : TcpSender) : Act Unit := do
  logLine h .tcp failedLine [s.host, s.port]
  drop

/-- Hands bytes to the network, if it takes them. -/
def transmit (h : Hooks) (s : TcpSender) (bytes : Bytes) : Act Value := do
  match ← Act.attempt (writeOut h s bytes) with
  | .ok () => return .bool true
  | .error f =>
    if f.isA "OSError" then
      (giveUp h s).during (some f)
      return .bool false
    else Act.fault f

def send (h : Hooks) (s : TcpSender) (m : Message) : Act Value := do
  if s.isClosed then return .bool false
  let text ← Act.words h m.encode
  Act.note (.encoded text)
  transmit h s (text.toUTF8.toList ++ [delimiter])

def close : Act Unit := do
  modifyState fun s => { s with isClosed := true }
  drop

end TcpSender

end Gelf
