import Gelf.Handler.Opening

/-!
# Gelf.Handler.Emit

Records on their way through a handler.

* `handle`: a record that the filters accept is emitted.
* `emit`: the record is rendered, made a message and delivered. Whatever goes wrong with it is
  reported and not raised, all but a recursion that runs too deep. A record that comes while
  another one is being emitted is dropped.
* `close`: the sender is closed, once.
* `hooks`: what becomes of the errands of a record's values, errands of errands included.
-/

namespace Gelf

namespace Handler

def notSent : String := "Could not send GELF message"

def noSender : String := "GELF hostname is empty or unresolved, message dropped"

def notBuilt : String := "Could not build GELF message"

def deliver (h : Hooks) (m : Message) : Act Unit := do
  if (← stageNow) = .closed then return
  if ← ensureSender h then
    Act.note (.sending m)
    let outcome ← Act.attempt (Sender.send h m)
    Act.note (.sent outcome)
    match outcome with
    | .ok sent => if !sent.truthy then report h ⟨notSent, none, .writing⟩
    | .error f =>
      if f.isA "Exception" then report h ⟨notSent, some f, .writing⟩ else Act.fault f
  else report h ⟨noSender, none, .writing⟩

def renderer (k : Handler) : Renderer := ⟨k.config.value .extractStacktrace, k.layout, true⟩

def compose (w : World) (r : Record) : Script Message :=
  ((renderer w.handler).render r).bind fun rendered =>
    Message.ofRecord w.levels w.handler.config w.context r rendered

def process (h : Hooks) (r : Record) : Act Unit := do
  let m ← Act.script h (compose (← get) r)
  deliver h m

/-- Processes a record and reports what goes wrong, all but a recursion that runs too deep. -/
def processReported (h : Hooks) (r : Record) : Act Unit := do
  match ← Act.attempt (process h r) with
  | .ok () => pure ()
  | .error f =>
    if f.isA "RecursionError" then Act.fault f
    else if f.isA "Exception" then report h ⟨notBuilt, some f, .formatting⟩
    else Act.fault f

def setEmitting (b : Bool) (w : World) : World :=
  { w with handler := { w.handler with emitting := b } }

def emit (h : Hooks) (r : Record) : Act Unit := do
  let k := (← get).handler
  if ← Act.ofExcept ((r.get "levelno").bind fun level => level.isBelow k.threshold) then return
  if k.stage = .closed then return
  if k.emitting then return
  modify (setEmitting true)
  Act.tidied (processReported h r) (setEmitting false)

/-- What an object that was made a filter says to a record. -/
def filterRule : Instance → FilterRule
  | .other _ rule _ => rule
  | i => .notAFilter i.className

def runFilters (r : Record) : List Instance → Except Fault (Bool × Record)
  | [] => .ok (true, r)
  | i :: rest =>
    match (filterRule i).judge r with
    | .error f => .error f
    | .ok (false, r) => .ok (false, r)
    | .ok (true, r) => runFilters r rest

def handle (h : Hooks) (r : Record) : Act Bool := do
  let (accepted, r) ← Act.ofExcept (runFilters r (← get).handler.filters)
  if accepted then
    emit h r
    return true
  else return false

/-! ## Closing -/

/-- The handler gives its sender up, if it has one, and closes it: what came of that. -/
def retire : Act (Except Fault Unit) := do
  let attached := (← get).handler.attached
  turn .closed false
  if attached then
    Act.note .closing
    Act.attempt Sender.close
  else return .ok ()

def notClosed : String := "Could not close GELF sender"

def reportUnclosed (h : Hooks) : Except Fault Unit → Act Unit
  | .ok () => pure ()
  | .error f =>
    if f.isA "Exception" then report h ⟨notClosed, some f, .closing⟩ else Act.fault f

def noteClosed : Act Unit := modify fun w => w.noted (.closed w.outside.events.length)

def close (h : Hooks) : Act Unit := do
  if (← stageNow) = .closed then noteClosed
  else
    reportUnclosed h (← retire)
    noteClosed

/-! ## Errands -/

def runErrand (h : Hooks) : Errand → Act Unit
  | .close => close h
  | .log call => do
    let r ← Act.words h (Record.make (← get).levels call)
    discard (handle h r)

/-- Errands whose own errands are run too, down to `depth` of them. An errand finds the handler busy
or closed, or makes it so, hence only the first few can do anything. -/
def hooks : Nat → Hooks
  | 0, _ => pure ()
  | depth + 1, e => runErrand (hooks depth) e

def deepEnough : Nat := 8

end Handler

end Gelf
