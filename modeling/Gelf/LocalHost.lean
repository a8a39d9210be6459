import Gelf.Defect
import Gelf.Report

/-!
# Gelf.LocalHost

The local host's name, which is looked up at most once.

* `LocalHost`: what the lookup came to.
* `settleLookup`: an empty name counts as none, and a system error is reported and leaves none.
-/

namespace Gelf

/-- What a lookup came to: nothing yet, or a name, or no name. -/
inductive LocalHost where
  | unknown
  | resolved (name : Option String)
  deriving DecidableEq

/-- An empty name counts as none. -/
def hostName (s : String) : Option String := if s == "" then none else some s

/-- Settles what one lookup came to: the name, and what is to be done with a fault. A system error
is reported and leaves no name; any other fault goes on, and leaves none either. -/
def settleLookup (outcome : Except Fault String) : Option String × Option (Except Fault Report) :=
  match outcome with
  | .ok s => (hostName s, none)
  | .error f =>
    if f.isA "OSError" then (none, some (.ok ⟨"Unknown local hostname", some f, .general⟩))
    else (none, some (.error f))

end Gelf
