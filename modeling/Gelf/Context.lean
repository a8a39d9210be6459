import Gelf.Value.Entries

/-!
# Gelf.Context

The diagnostic context: texts under keys, which messages are tagged with.

* `Context`: the texts at present and, for every block that is open, the texts before it.
* `Context.enter`, `Context.leave`: a block adds texts and puts back what was there before.
* `Context.child`: what a copy of the context starts with.
-/

namespace Gelf

structure Context where
  current : Named String
  saved : List (Named String)

namespace Context

def empty : Context := ⟨[], []⟩

def put (c : Context) (key text : String) : Context := { c with current := c.current.put key text }

def get? (c : Context) (key : String) : Option String := c.current.get? key

def remove (c : Context) (key : String) : Context := { c with current := c.current.erase key }

def clear (c : Context) : Context := { c with current := [] }

/-- The texts of the values, all of them before the first one counts. -/
def texts : List (String × Value) → Script (Named String)
  | [] => .done []
  | (k, v) :: rest => v.text.bind fun s => (texts rest).bind fun more => .done ((k, s) :: more)

def enter (c : Context) (values : Named String) : Context :=
  ⟨c.current.update values, c.current :: c.saved⟩

/-- Leaves the innermost block, if one is open. -/
def leave (c : Context) : Context :=
  match c.saved with
  | before :: rest => ⟨before, rest⟩
  | [] => c

/-- A thread starts with no texts, a copy with those of its parent; neither is in any block. -/
def child (c : Context) (copied : Bool) : Context := ⟨if copied then c.current else [], []⟩

end Context

end Gelf
