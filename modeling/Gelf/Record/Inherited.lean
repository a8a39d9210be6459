import Gelf.Record

/-!
# Gelf.Record.Inherited

What every record says, by its class, under names that are not among its attributes.

* `Record.shown`: a record as a text.
* `Record.inherited`: the text of what the class says under a name.
* `Record.saying`: what a record says under a name, its own attributes first.
-/

namespace Gelf

/-- What records are for, as their class tells it. -/
def recordPurpose : String :=
  "\n    A LogRecord instance represents an event being logged.\n\n" ++
    "    LogRecord instances are created every time something is logged. They\n" ++
    "    contain all the information pertinent to the event being logged. The\n" ++
    "    main information passed in is in msg and args, which are combined\n" ++
    "    using str(msg) % args to create the message field of the record. The\n" ++
    "    record also includes information such as when the record was created,\n" ++
    "    the source line where the logging call was made, and any exception\n" ++
    "    information to be logged.\n    "

namespace Record

def shown (r : Record) : Script String :=
  (Script.ofExcept (["name", "levelno", "pathname", "lineno", "msg"].mapM r.get)).bind fun parts =>
    Printf.format "<LogRecord: %s, %s, %s, %s, \"%s\">" (.tuple parts)

/-- One of the operations on records, at work on this one. -/
def operation (r : Record) (name : String) : Script (Option String) :=
  r.shown.bind fun s => .done (some ("<bound method LogRecord." ++ name ++ " of " ++ s ++ ">"))

def inherited (r : Record) : String → Script (Option String)
  | "__class__" => .done (some "<class 'logging.LogRecord'>")
  | "__module__" => .done (some "logging")
  | "__doc__" => .done (some recordPurpose)
  | "__init__" => r.operation "__init__"
  | "__repr__" => r.operation "__repr__"
  | "getMessage" => r.operation "getMessage"
  | _ => .done none

/-- An attribute that is there and empty says nothing. -/
def saying (r : Record) (name : String) : Script (Option String) :=
  match r.attributes.get? name with
  | some .null => .done none
  | some v => v.text.bind fun s => .done (some s)
  | none => r.inherited name

end Record

end Gelf
