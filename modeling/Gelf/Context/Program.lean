import Gelf.Context

/-!
# Gelf.Context.Program

Programs over the diagnostic context.

* `Machine`: the mappings that were made and which of them one thread sees. A mapping that can be seen
  is never changed; a change makes another one.
* `Ending`, `Machine.resume`: how a block ends when it is left. `swallows`: what that means for the
  exception that it was left with.
* `Step`: what a program can do, threads and copies with programs of their own included.
* `runSteps`: the outcomes of a program and the machine that it leaves.
-/

namespace Gelf.Context

/-- Every mapping keeps its number. The first one is empty, and every thread begins with it. The numbers
in `saved` are those of the mappings that stood before the open blocks, the innermost first. -/
structure Machine where
  mappings : List (Named String)
  current : Nat
  saved : List Nat

namespace Machine

def start : Machine := ⟨[[]], 0, []⟩

def read (m : Machine) (n : Nat) : Named String := m.mappings.getD n []

def texts (m : Machine) : Named String := m.read m.current

def context (m : Machine) : Context := ⟨m.texts, m.saved.map m.read⟩

/-- Makes a mapping, which nothing refers to yet. -/
def make (m : Machine) (texts : Named String) : Machine :=
  { m with mappings := m.mappings ++ [texts] }

def set (m : Machine) (texts : Named String) : Machine :=
  { m.make texts with current := m.mappings.length }

def put (m : Machine) (key text : String) : Machine := m.set (m.texts.put key text)

def remove (m : Machine) (key : String) : Machine :=
  if m.texts.has key then m.set (m.texts.erase key) else m

def clear (m : Machine) : Machine := { m with current := 0 }

def enter (m : Machine) (values : Named String) : Machine :=
  { m.set (m.texts.update values) with saved := m.current :: m.saved }

/-- Goes back to the mapping that stood before the innermost block, if one is open. -/
def reset (m : Machine) : Machine :=
  match m.saved with
  | before :: rest => { m with current := before, saved := rest }
  | [] => m

/-- Takes a copy of the context and changes that. -/
def editCopy (m : Machine) (edit : Named String → Named String) : Machine :=
  let copied := m.make m.texts
  { copied with mappings := copied.mappings.modify m.mappings.length edit }

/-- A copied context begins with the very mapping of its parent, and is in no block. -/
def child (m : Machine) (copied : Bool) : Machine :=
  { m with current := if copied then m.current else 0, saved := [] }

/-- Back from a thread or a copy, of which no more stays than the mappings it made. -/
def back (m inner : Machine) : Machine := { m with mappings := inner.mappings }

def ofContext (c : Context) : Machine :=
  ⟨[] :: c.current :: c.saved, 1, List.range' 2 c.saved.length⟩

end Machine

/-! ## Leaving a block -/

/-- How the code of a block ends when it goes on after what stood in the block. -/
inductive Ending where
  | finished
  /-- The exception that was thrown into it comes out of it. -/
  | passedOn
  /-- Another one comes out of it, raised from that. -/
  | wrapped (f : Fault)
  | raised (f : Fault)

/-- The code of a block puts the former mapping back, whatever it goes on with. An exception goes
through it, but an end of iteration does not leave such code as it is. -/
def Machine.resume (m : Machine) (thrown : Option Fault) : Ending × Machine :=
  let ending := match thrown with
    | none => .finished
    | some f =>
      if f.isA "StopIteration" then
        .wrapped (.raised (.builtin "RuntimeError") [.str "generator raised StopIteration"])
      else .passedOn
  (ending, m.reset)

/-- Does a block swallow the exception it was left with? It does if its code ends as if there had been
none. -/
def swallows (thrown : Option Fault) : Ending → Except Fault Bool
  | .finished => .ok thrown.isSome
  | .passedOn => .ok false
  | .wrapped f => if thrown.any (·.isA "StopIteration") then .ok false else .error f
  | .raised f => .error f

/-! ## Programs -/

inductive Step where
  | put (key : String) (value : Value)
  | get (key : String)
  | remove (key : String)
  | clear
  | enter (values : List (String × Value))
  | exit (thrown : Option Fault)
  | editCopy (edit : Named String → Named String)
  | child (copied : Bool) (steps : List Step)

/-- What a step shows. -/
inductive Outcome where
  | context (texts : Named String)
  | text (value : Option String)
  | swallowed (b : Bool)
  | failed (f : Fault)
  | inner (outcomes : List Outcome)

def Outcome.ofExit : Except Fault Bool → Outcome
  | .ok b => .swallowed b
  | .error f => .failed f

def shown (m : Machine) : Outcome × Machine := (.context m.texts, m)

mutual

def runStep (m : Machine) : Step → Outcome × Machine
  | .put key value =>
    match value.text.quiet with
    | .ok s => shown (m.put key s)
    | .error f => (.failed f, m)
  | .get key => (.text (m.texts.get? key), m)
  | .remove key => shown (m.remove key)
  | .clear => shown m.clear
  | .enter values =>
    match (texts values).quiet with
    | .ok ts => shown (m.enter ts)
    | .error f => (.failed f, m)
  | .exit thrown =>
    let (ending, m) := m.resume thrown
    (.ofExit (swallows thrown ending), m)
  | .editCopy edit => shown (m.editCopy edit)
  | .child copied steps =>
    let (outcomes, inner) := runSteps (m.child copied) steps
    (.inner outcomes, m.back inner)

def runSteps (m : Machine) : List Step → List Outcome × Machine
  | [] => ([], m)
  | s :: rest =>
    let (o, m) := runStep m s
    let (os, m) := runSteps m rest
    (o :: os, m)

end

end Gelf.Context
