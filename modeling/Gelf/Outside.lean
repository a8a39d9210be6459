import Gelf.Chunk

/-!
# Gelf.Outside

The world outside: name lookup, sockets, random numbers and the senders of other packages.

* `Outside`: what each operation will come to, and all that has happened. The outcomes of an
  operation are laid down in order; where none is left, it succeeds.
* `Event`: an operation, as it is noted when it begins.
* `Outside.resolve`, `Outside.connect` and so on: one operation each.
-/

namespace Gelf

structure Address where
  family : String
  parts : List Value

inductive Event where
  | resolve (host port : Value)
  | socket (family : String)
  | connect (host port timeout : Value)
  | sendTo (datagram : Bytes) (address : List Value)
  | sendAll (bytes : Bytes)
  | close
  | hostName
  | senderMade
  | senderSent (text : String)
  | senderClosed

/-- The transport that writes a log line. -/
inductive LogSource where
  | udp
  | tcp
  deriving DecidableEq

structure LogLine where
  source : LogSource
  text : String

structure Outside where
  localName : String
  addressOf : Value → Value → List Address
  resolves : List (Except Fault (Option (List Address)))
  sockets : List (Except Fault Unit)
  connects : List (Except Fault Unit)
  sendTos : List (Except Fault Unit)
  sendAlls : List (Except Fault Unit)
  closes : List (Except Fault Unit)
  hostNames : List (Except Fault String)
  creations : List (Except Fault Unit)
  deliveries : List (Except Fault Value)
  senderCloses : List (Except Fault Unit)
  messageId : Bytes
  events : List Event
  logs : List LogLine

namespace Outside

/-- A world in which everything succeeds and nothing has happened. -/
def calm : Outside where
  localName := "localhost"
  addressOf _ port := [⟨"inet", [.str "127.0.0.1", port]⟩]
  resolves := []
  sockets := []
  connects := []
  sendTos := []
  sendAlls := []
  closes := []
  hostNames := []
  creations := []
  deliveries := []
  senderCloses := []
  messageId := List.replicate 8 0
  events := []
  logs := []

/-- The first outcome that is laid down, or `usual`; and the outcomes after it. -/
def next {α : Type} (outcomes : List (Except Fault α)) (usual : α) :
    Except Fault α × List (Except Fault α) :=
  match outcomes with
  | o :: rest => (o, rest)
  | [] => (.ok usual, [])

def note (o : Outside) (e : Event) : Outside := { o with events := o.events ++ [e] }

def resolve (host port : Value) (o : Outside) : Except Fault (List Address) × Outside :=
  let (outcome, rest) := next o.resolves none
  (outcome.map fun found => found.getD (o.addressOf host port),
    { o.note (.resolve host port) with resolves := rest })

def socket (family : String) (o : Outside) : Except Fault Unit × Outside :=
  let (outcome, rest) := next o.sockets ()
  (outcome, { o.note (.socket family) with sockets := rest })

def connect (host port timeout : Value) (o : Outside) : Except Fault Unit × Outside :=
  let (outcome, rest) := next o.connects ()
  (outcome, { o.note (.connect host port timeout) with connects := rest })

def sendTo (datagram : Bytes) (address : List Value) (o : Outside) : Except Fault Unit × Outside :=
  let (outcome, rest) := next o.sendTos ()
  (outcome, { o.note (.sendTo datagram address) with sendTos := rest })

def sendAll (bytes : Bytes) (o : Outside) : Except Fault Unit × Outside :=
  let (outcome, rest) := next o.sendAlls ()
  (outcome, { o.note (.sendAll bytes) with sendAlls := rest })

def close (o : Outside) : Except Fault Unit × Outside :=
  let (outcome, rest) := next o.closes ()
  (outcome, { o.note .close with closes := rest })

def hostName (o : Outside) : Except Fault String × Outside :=
  let (outcome, rest) := next o.hostNames o.localName
  (outcome, { o.note .hostName with hostNames := rest })

def makeSender (o : Outside) : Except Fault Unit × Outside :=
  let (outcome, rest) := next o.creations ()
  (outcome, { o.note .senderMade with creations := rest })

def handOver (text : String) (o : Outside) : Except Fault Value × Outside :=
  let (outcome, rest) := next o.deliveries (.bool true)
  (outcome, { o.note (.senderSent text) with deliveries := rest })

def closeSender (o : Outside) : Except Fault Unit × Outside :=
  let (outcome, rest) := next o.senderCloses ()
  (outcome, { o.note .senderClosed with senderCloses := rest })

end Outside

end Gelf
