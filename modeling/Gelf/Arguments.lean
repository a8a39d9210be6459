import Gelf.Defect
import Gelf.Value.Entries

/-!
# Gelf.Arguments

Arguments that a call is given by name.

* `checkArguments`: all of them are expected. The first one that is not is a mistake, of one kind if
  it was given by position already and of another if there is no such argument.
* `checkRepeated`: none of them is given by name twice.
* `Named.getOr`: an argument, or its default.
-/

namespace Gelf

def checkArguments (callee : String) (byPosition expected : List String)
    (arguments : Named Value) : Except Fault Unit :=
  match arguments.find? fun n => !expected.contains n.1 with
  | some (name, _) =>
    if byPosition.contains name then raise (.repeatedArgument callee name)
    else raise (.unexpectedArgument callee name)
  | none => .ok ()

/-- None of the arguments may be given by name elsewhere too. -/
def checkRepeated (callee : String) (byName : List String) (arguments : Named Value) :
    Except Fault Unit :=
  match arguments.find? fun n => byName.contains n.1 with
  | some (name, _) => raise (.repeatedKeyword callee name)
  | none => .ok ()

def Named.getOr (arguments : Named Value) (name : String) (default : Value) : Value :=
  (arguments.get? name).getD default

end Gelf
