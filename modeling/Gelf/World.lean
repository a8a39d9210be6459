import Gelf.Catalog
import Gelf.LocalHost
import Gelf.Message.OfRecord
import Gelf.Outside

/-!
# Gelf.World

All that a handler's work can touch.

* `Sender`: a transport. `Handler`: what a handler keeps. `World`: both, with everything around
  them.
* `Deed`: what a handler and its sender did, as it is noted in the world's history.
* `Act`: work on a world. A fault ends it and keeps what was done to the world.
* `Hooks`: what becomes of errands. `Act.script` runs a script and answers its requests.
* `report`: tells the reporter. Where the reporter fails, the error stream is told instead.
* `Act.perform_bind` and its like: what each way of putting work together does to a world.
-/

namespace Gelf

structure UdpSender where
  host : Value
  port : Value
  chunkSize : Value
  wantsCompression : Value
  address : List Value
  isOpen : Bool

structure TcpSender where
  host : Value
  port : Value
  timeout : Value
  isClosed : Bool
  isOpen : Bool

inductive Sender where
  | udp (s : UdpSender)
  | tcp (s : TcpSender)
  | scripted
  | other (className : String) (closable : Bool)

/-- The life of a handler's transport. -/
inductive Stage where
  | uninitialized
  | ready
  | closed
  deriving DecidableEq, Repr

def Stage.name : Stage → String
  | .uninitialized => "uninitialized"
  | .ready => "ready"
  | .closed => "closed"

structure Handler where
  config : Config
  threshold : Value
  filters : List Instance
  factory : Option Importable
  layout : Option Formatter
  stage : Stage
  attached : Bool
  emitting : Bool

inductive Reporter where
  | absent
  | console (includeTraceback : Value)
  /-- Any other reporter: how it answers a report that comes after others. -/
  | other (answer : List Report → Report → Option Fault)

/-- A reporter that only keeps what it is told. -/
def Reporter.silent : Reporter := .other fun _ _ => none

/-- The standard error stream, if there is one. It may refuse a text after what was written, and what
stands in its place may be no stream at all. -/
inductive ErrorStream where
  | missing
  | unwritable (className : String)
  | present (written : String) (refusal : String → String → Option Fault)

/-- A stream that takes everything. -/
def ErrorStream.fresh : ErrorStream := .present "" fun _ _ => none

/-- All that was written to the stream so far. -/
def ErrorStream.written : ErrorStream → String
  | .present written _ => written
  | _ => ""

/-- What a handler and its sender did, noted as they did it. -/
inductive Deed where
  /-- The handler sets about getting a sender. -/
  | opening
  /-- From now on the handler is at this stage, with a sender or without. -/
  | turned (stage : Stage) (attached : Bool)
  /-- A sender has got a socket. -/
  | connected
  /-- The handler gives its sender a message. -/
  | sending (m : Message)
  /-- The sender has the text of the message it was given. -/
  | encoded (text : String)
  /-- What the sender answered. -/
  | sent (outcome : Except Fault Value)
  /-- The handler tells its sender to close. -/
  | closing
  /-- A call to close the handler has returned, after so many events. -/
  | closed (events : Nat)
  /-- A report failed, and not even the last resort could keep its fault from going on. -/
  | escaped (r : Report)

/-- `chatter` is what a sender of another package does while it sends. -/
structure World where
  outside : Outside
  host : LocalHost
  levels : LevelNames
  context : Context
  reporter : Reporter
  stream : ErrorStream
  reports : List Report
  sender : Option Sender
  handler : Handler
  chatter : Option Errand
  history : List Deed

def Handler.unused : Handler :=
  ⟨.standard, .int 20, [], none, none, .uninitialized, false, false⟩

def World.calm : World :=
  ⟨.calm, .unknown, .standard, .empty, .silent, .fresh, [], none, .unused, none, []⟩

def World.noted (w : World) (d : Deed) : World := { w with history := w.history ++ [d] }

/-- The handler has moved on to a stage, with a sender or without. -/
def World.turned (w : World) (stage : Stage) (attached : Bool) : World :=
  { w with handler := { w.handler with stage := stage, attached := attached } }.noted
    (.turned stage attached)

abbrev Act := ExceptT Fault (StateM World)

namespace Act

variable {α : Type}

def perform (a : Act α) (w : World) : Except Fault α × World := StateT.run (ExceptT.run a) w

def ofFunction (f : World → Except Fault α × World) : Act α := ExceptT.mk f

def ofExcept (e : Except Fault α) : Act α := ExceptT.mk (pure e)

def fault (f : Fault) : Act α := ofExcept (.error f)

/-- Does the work and hands over what came of it; never ends in a fault. -/
def attempt (a : Act α) : Act (Except Fault α) := ofFunction fun w =>
  match a.perform w with
  | (r, w) => (.ok r, w)

def outward (f : Outside → Except Fault α × Outside) : Act α := ofFunction fun w =>
  match f w.outside with
  | (r, o) => (r, { w with outside := o })

/-- Does the work, then tidies up whatever came of it. -/
def tidied (a : Act α) (tidy : World → World) : Act α := ofFunction fun w =>
  match a.perform w with
  | (r, w) => (r, tidy w)

def note (d : Deed) : Act Unit := modify fun w => w.noted d

/-- Work that is done while a fault is being handled, if one is. -/
def during (a : Act α) (handled : Option Fault) : Act α := ofFunction fun w =>
  match a.perform w with
  | (.ok x, w) => (.ok x, w)
  | (.error f, w) => (.error (f.raisedDuring handled), w)

theorem perform_pure (a : α) (w : World) : (pure a : Act α).perform w = (.ok a, w) := rfl

theorem perform_bind {β : Type} (a : Act α) (k : α → Act β) (w : World) :
    (a >>= k).perform w = match a.perform w with
      | (.ok x, w') => (k x).perform w'
      | (.error f, w') => (.error f, w') := by
  unfold perform ExceptT.run StateT.run
  simp only [bind, ExceptT.bind, ExceptT.mk, StateT.bind, ExceptT.bindCont]
  cases a w with
  | mk r w' => cases r <;> rfl

theorem perform_get (w : World) : (get : Act World).perform w = (.ok w, w) := rfl

theorem perform_modify (g : World → World) (w : World) :
    (modify g : Act PUnit).perform w = (.ok ⟨⟩, g w) := rfl

theorem perform_ofExcept (e : Except Fault α) (w : World) :
    (ofExcept e).perform w = (e, w) := rfl

theorem perform_fault (f : Fault) (w : World) : (fault f : Act α).perform w = (.error f, w) := rfl

theorem perform_attempt (a : Act α) (w : World) :
    (attempt a).perform w = (.ok (a.perform w).1, (a.perform w).2) := rfl

theorem perform_outward (g : Outside → Except Fault α × Outside) (w : World) :
    (outward g).perform w = ((g w.outside).1, { w with outside := (g w.outside).2 }) := rfl

theorem perform_during (a : Act α) (handled : Option Fault) (w : World) :
    (a.during handled).perform w = match a.perform w with
      | (.ok x, w') => (.ok x, w')
      | (.error f, w') => (.error (f.raisedDuring handled), w') := rfl

theorem perform_tidied (a : Act α) (tidy : World → World) (w : World) :
    (tidied a tidy).perform w = ((a.perform w).1, tidy (a.perform w).2) := rfl

end Act

abbrev Hooks := Errand → Act Unit

/-- Runs a script that only asks for texts. -/
def Act.words {α : Type} (h : Hooks) (s : Script α) : Act α := ofFunction fun w =>
  s.run (fun q w => match q with
    | .errand e => (h e).perform w
    | .unformatted _ _ => (.ok (), w)
    | .localHost => (.ok none, w)) w

/-! ## Reporting -/

def write (text : String) : Act Unit := do
  match (← get).stream with
  | .missing => Act.fault (Defect.noAttribute "NoneType" "write").toFault
  | .unwritable c => Act.fault (Defect.noAttribute c "write").toFault
  | .present before refusal =>
    match refusal before text with
    | some f => Act.fault f
    | none => modify fun w => { w with stream := .present (before ++ text) refusal }

def headline (r : Report) : Script String :=
  let start := "--- GELF handler error [" ++ r.code.name ++ "]: " ++ r.message
  match r.error with
  | some f => f.text.bind fun s => .done (start ++ " | " ++ f.kind.name ++ ": " ++ s ++ "\n")
  | none => .done (start ++ "\n")

def reportOnConsole (h : Hooks) (includeTraceback : Value) (r : Report) : Act Unit := do
  write (← Act.words h (headline r))
  match r.error with
  | some f => if includeTraceback.truthy then write (← Act.words h f.traceback)
  | none => pure ()

def Reporter.tell (h : Hooks) (earlier : List Report) (r : Report) : Reporter → Act Unit
  | .absent => pure ()
  | .console includeTraceback => reportOnConsole h includeTraceback r
  | .other answer =>
    match answer earlier r with
    | some f => Act.fault f
    | none => pure ()

/-- Tells on the error stream that the reporter failed, and how. -/
def complain (h : Hooks) (r : Report) (failure : Fault) : Act Unit := do
  write ("--- GELF error reporter failed while reporting: " ++ r.message ++ "\n")
  write (← Act.words h failure.traceback)

/-- What is left to do where the reporter fails: to complain, if there is a stream that takes it. -/
def lastResort (h : Hooks) (r : Report) (failure : Fault) : Act Unit := do
  match (← get).stream with
  | .missing => pure ()
  | _ =>
    match ← Act.attempt ((complain h r failure).during (some failure)) with
    | .ok () => pure ()
    | .error f => if f.isA "OSError" then pure () else Act.fault f

/-- Tells a reporter. Its failure is no one's concern if the last resort can deal with it. -/
def Reporter.tellGuarded (h : Hooks) (earlier : List Report) (r : Report) (reporter : Reporter) :
    Act Unit := do
  match ← Act.attempt ((reporter.tell h earlier r).during r.error) with
  | .ok () => pure ()
  | .error f => if f.isA "Exception" then lastResort h r f else Act.fault f

/-- Tells the reporter, if there is one. -/
def report (h : Hooks) (r : Report) : Act Unit := do
  match (← get).reporter with
  | .absent => pure ()
  | reporter =>
    let earlier := (← get).reports
    modify fun w => { w with reports := w.reports ++ [r] }
    match ← Act.attempt (reporter.tellGuarded h earlier r) with
    | .ok () => pure ()
    | .error f =>
      Act.note (.escaped r)
      Act.fault f

/-! ## Requests -/

/-- The local host's name. The first lookup settles it, whatever comes of it. -/
def localHost (h : Hooks) : Act (Option String) := do
  match (← get).host with
  | .resolved name => return name
  | .unknown =>
    let outcome ← Act.attempt (Act.outward Outside.hostName)
    let (name, sequel) := settleLookup outcome
    modify fun w => { w with host := .resolved name }
    match sequel with
    | none => return name
    | some (.ok r) =>
      report h r
      return name
    | some (.error f) => Act.fault f

def Act.script {α : Type} (h : Hooks) (s : Script α) : Act α := ofFunction fun w =>
  s.run (fun q w => match q with
    | .errand e => (h e).perform w
    | .unformatted raw f => (report h (notFormatted raw f)).perform w
    | .localHost => (localHost h).perform w) w

/-- Writes a log line; its arguments are asked for their texts. -/
def logLine (h : Hooks) (source : LogSource) (format : String) (args : List Value) : Act Unit := do
  let text ← Act.words h (Printf.format format (.tuple args))
  modify fun w => { w with outside := { w.outside with logs := w.outside.logs ++ [⟨source, text⟩] } }

/-- Errands that come to nothing. -/
def idle : Hooks := fun _ => pure ()

end Gelf
