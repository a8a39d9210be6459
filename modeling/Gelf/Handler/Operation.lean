import Gelf.Handler.Construct

/-!
# Gelf.Handler.Operation

Runs of a handler: what its owner and the code that logs do to it, one thing after another.

* `Step`: a record that reaches the handler, a flush or the end.
* `Operation`: a logging call, a change of the handler or a step of the diagnostic context.
* `Operation.run`: what the operation answers, if anything.
* `runAll`: the answers to a list of operations, with the world after each.
-/

namespace Gelf

namespace Handler

inductive Step where
  | handle (r : Record)
  | flush
  | close

/-- Only a record has an answer, whether the filters accepted it. -/
def Step.run (h : Hooks) : Step → Act (Option Bool)
  | .handle r => return some (← Handler.handle h r)
  -- nothing is kept back, so there is nothing to flush
  | .flush => return none
  | .close => do
    Handler.close h
    return none

inductive Operation where
  | handle (call : LogCall)
  | emit (call : LogCall)
  | close
  | flush
  | setThreshold (level : Value)
  | setLayout (layout : Option String)
  | setFormatter (formatter : Formatter)
  | addLevel (number name : Value)
  | putText (key : String) (value : Value)
  | removeText (key : String)
  | clearTexts
  | enterBlock (values : List (String × Value))
  | leaveBlock

def layoutOf : Option String → Except Fault (Option Formatter)
  | some text => (Layout.make text).map fun l => some l.formatter
  | none => .ok none

namespace Operation

/-- Only a handled record has an answer, whether the filters accepted it, and the end of a block,
which never swallows an exception. -/
def run (h : Hooks) : Operation → Act (Option Bool)
  | .handle call => do
    let r ← Act.words h (Record.make (← get).levels call)
    (Step.handle r).run h
  | .emit call => do
    let r ← Act.words h (Record.make (← get).levels call)
    Handler.emit h r
    return none
  | .close => Step.close.run h
  | .flush => Step.flush.run h
  | .setThreshold level => do
    let threshold ← Act.words h ((← get).levels.check level)
    modifyHandler fun k => { k with threshold := threshold }
    return none
  | .setLayout text => do
    let layout ← Act.ofExcept (layoutOf text)
    modifyHandler fun k => { k with layout := layout }
    return none
  | .setFormatter formatter => do
    modifyHandler fun k => { k with layout := some formatter }
    return none
  | .addLevel number name => do
    modify fun w => { w with levels := w.levels.add number name }
    return none
  | .putText key value => do
    let text ← Act.words h value.text
    changeContext fun c => c.put key text
    return none
  | .removeText key => do
    changeContext fun c => c.remove key
    return none
  | .clearTexts => do
    changeContext Context.clear
    return none
  | .enterBlock values => do
    let texts ← Act.words h (Context.texts values)
    changeContext fun c => c.enter texts
    return none
  | .leaveBlock => do
    changeContext Context.leave
    return some false

end Operation

/-- A fault ends its own operation only. -/
def runAll (h : Hooks) : List Operation → World → List (Except Fault (Option Bool) × World)
  | [], _ => []
  | o :: rest, w =>
    let after := (o.run h).perform w
    after :: runAll h rest after.2

end Handler

end Gelf
