import Gelf.Sender.Choice

/-!
# Gelf.Handler.Opening

A handler's sender, which is opened with the first message.

* `ensureSender`: true if there is a sender. A failure to open one is reported, and the next
  message tries again.
* `openByFactory`: by calling a class or function. `openByHost`: for the configured host.
-/

namespace Gelf

namespace Handler

def modifyHandler (f : Handler → Handler) : Act Unit :=
  modify fun w => { w with handler := f w.handler }

def stageNow : Act Stage := return (← get).handler.stage

def turn (stage : Stage) (attached : Bool) : Act Unit := modify fun w => w.turned stage attached

def changeContext (f : Context → Context) : Act Unit :=
  modify fun w => { w with context := f w.context }

/-- Makes a sender by calling what was given or loaded for it. Meanwhile that may close the handler or
hand it records. What is made may be nothing. -/
def callFactory (h : Hooks) (factory : Importable) : Act Bool := do
  match ← Act.words h (Catalog.call factory) with
  | .sender =>
    Act.outward Outside.makeSender
    modify fun w => { w with sender := some .scripted }
    return true
  | .other c _ closable =>
    modify fun w => { w with sender := some (.other c closable) }
    return true
  | .cleared =>
    changeContext Context.clear
    return false
  | .nothing => return false

/-- How the failure to open a sender for a host is reported, if it is a system error. -/
def openingReport (host port : Value) (f : Fault) : Script (Option Report) :=
  if f.kind == FaultKind.addressLookup then
    host.text.bind fun s => .done (some ⟨"Unknown GELF hostname: " ++ s, some f, .opening⟩)
  else if f.isA "ConnectionError" then
    host.text.bind fun s => port.text.bind fun p =>
      .done (some ⟨"Could not connect to GELF host " ++ s ++ ":" ++ p, some f, .opening⟩)
  else if f.isA "OSError" then
    .done (some ⟨"Socket error while creating GELF sender", some f, .opening⟩)
  else .done none

def openByFactory (h : Hooks) (factory : Importable) : Act Bool := do
  Act.note .opening
  match ← Act.attempt (callFactory h factory) with
  | .ok true =>
    turn .ready true
    return true
  | .ok false =>
    turn .ready false
    return false
  | .error f =>
    if f.isA "Exception" then
      report h ⟨"Could not create GELF sender", some f, .opening⟩
      return false
    else Act.fault f

def openByHost (h : Hooks) (host port timeout : Value) : Act Bool := do
  Act.note .opening
  match ← Act.attempt (Sender.openFor h host port timeout) with
  | .ok () =>
    turn .ready true
    return true
  | .error f =>
    match ← (Act.words h (openingReport host port f)).during (some f) with
    | some r =>
      report h r
      return false
    | none => Act.fault f

/-- Is there a sender? One is opened if there is none yet. -/
def ensureSender (h : Hooks) : Act Bool := do
  let k := (← get).handler
  if k.attached then return true
  match k.factory with
  | some factory => openByFactory h factory
  | none =>
    let host := k.config.value .host
    if host.truthy then openByHost h host (k.config.value .port) (k.config.value .timeout)
    else return false

end Handler

end Gelf
