import Gelf.Sender.Tcp
import Gelf.Sender.Udp

/-!
# Gelf.Sender.Choice

Senders of either kind.

* `Sender.openFor`: the sender that a host's name asks for: `tcp:` and `udp:` in front of it choose
  the transport, and UDP is used where neither is there.
* `Sender.openWith`: a sender of a given kind, with arguments by name.
* `Sender.send`, `Sender.close`: on the sender that the world has.
-/

namespace Gelf

namespace Sender

/-- The name without the text in front of it, if it begins so. -/
def after? (start name : String) : Option String :=
  if start.toList.isPrefixOf name.toList then some (String.ofList (name.toList.drop start.length))
  else none

def openFor (h : Hooks) (host port timeout : Value) : Act Unit :=
  match host with
  | .str name =>
    match after? "tcp:" name, after? "udp:" name with
    | some rest, _ => TcpSender.make h (.str rest) port timeout
    | none, some rest =>
      UdpSender.make h (.str rest) port (.int defaultChunkSize) (.bool true)
    | none, none => UdpSender.make h host port (.int defaultChunkSize) (.bool true)
  | .bytes _ => Act.fault (Defect.wrongTextAffix "bytes").toFault
  | v => Act.fault (Defect.noAttribute v.className "startswith").toFault

/-- Over which transport a sender is asked for; the host's name may choose. -/
inductive Transport where
  | udp
  | tcp
  | byName

def openWith (h : Hooks) (transport : Transport) (host port : Value) (options : Named Value) :
    Act Unit := do
  match transport with
  | .udp =>
    Act.ofExcept (checkArguments "GelfUDPSender.__init__" ["self", "host", "port"]
      ["chunk_size", "compress"] options)
    UdpSender.make h host port (options.getOr "chunk_size" (.int defaultChunkSize))
      (options.getOr "compress" (.bool true))
  | .tcp =>
    Act.ofExcept (checkArguments "GelfTCPSender.__init__" ["self", "host", "port"] ["timeout"]
      options)
    TcpSender.make h host port (options.getOr "timeout" (.float defaultTimeout))
  | .byName =>
    Act.ofExcept (checkArguments "create_sender" ["host", "port"] ["timeout"] options)
    openFor h host port (options.getOr "timeout" (.float defaultTimeout))

def className : Sender → String
  | .udp _ => "GelfUDPSender"
  | .tcp _ => "GelfTCPSender"
  | .scripted => "Sender"
  | .other c _ => c

/-- Hands a message to a sender of another package. -/
def handOver (h : Hooks) (m : Message) : Act Value := do
  let text ← Act.words h m.encode
  let outcome ← Act.attempt (Act.outward (Outside.handOver text))
  match (← get).chatter with
  | some errand => h errand
  | none => pure ()
  Act.ofExcept outcome

def send (h : Hooks) (m : Message) : Act Value := do
  match (← get).sender with
  | some (.udp s) => s.send h m
  | some (.tcp s) => s.send h m
  | some .scripted => handOver h m
  | some (.other c _) => Act.fault (Defect.noAttribute c "send_message").toFault
  | none => Act.fault (Defect.noAttribute "NoneType" "send_message").toFault

def close : Act Unit := do
  match (← get).sender with
  | some (.udp s) => s.close
  | some (.tcp _) => TcpSender.close
  | some .scripted => Act.outward Outside.closeSender
  | some (.other c closable) =>
    if closable then pure () else Act.fault (Defect.noAttribute c "close").toFault
  | none => Act.fault (Defect.noAttribute "NoneType" "close").toFault

end Sender

end Gelf
