import Gelf.Text.Split
import Gelf.Value

/-!
# Gelf.Fault

Classes of exceptions.

* `FaultKind.ancestors`: the classes above a class, nearest first.
* `FaultKind.isA`: is it this class or below it?
* `FaultKind.qualified`: the name with which a traceback ends; the module is left out for the
  built-in classes and those of the main module.
* `Fault.raised`: an exception as it is when nothing but its arguments is known.
-/

namespace Gelf

namespace FaultKind

def aliases : List (String × String) := [("IOError", "OSError"), ("EnvironmentError", "OSError")]

/-- The class with this name. A dotted name is that of a program's own class, whatever it looks
like; only that of a failed lookup is known. -/
def named (path : String) : FaultKind :=
  if path == "socket.gaierror" then .addressLookup
  else
    match Text.splitLast '.' path.toList with
    | some (home, name) => .own (String.ofList home) (String.ofList name)
    | none => .builtin ((aliases.lookup path).getD path)

/-- The built-in classes that are not directly below `Exception`, with what is above them. -/
def lineage : List (String × List String) :=
  [("BaseException", []),
   ("Exception", ["BaseException"]),
   ("SystemExit", ["BaseException"]),
   ("KeyboardInterrupt", ["BaseException"]),
   ("GeneratorExit", ["BaseException"]),
   ("BaseExceptionGroup", ["BaseException"]),
   ("ExceptionGroup", ["BaseExceptionGroup", "Exception", "BaseException"]),
   ("FloatingPointError", ["ArithmeticError", "Exception", "BaseException"]),
   ("OverflowError", ["ArithmeticError", "Exception", "BaseException"]),
   ("ZeroDivisionError", ["ArithmeticError", "Exception", "BaseException"]),
   ("ModuleNotFoundError", ["ImportError", "Exception", "BaseException"]),
   ("IndexError", ["LookupError", "Exception", "BaseException"]),
   ("KeyError", ["LookupError", "Exception", "BaseException"]),
   ("UnboundLocalError", ["NameError", "Exception", "BaseException"]),
   ("BlockingIOError", ["OSError", "Exception", "BaseException"]),
   ("ChildProcessError", ["OSError", "Exception", "BaseException"]),
   ("ConnectionError", ["OSError", "Exception", "BaseException"]),
   ("BrokenPipeError", ["ConnectionError", "OSError", "Exception", "BaseException"]),
   ("ConnectionAbortedError", ["ConnectionError", "OSError", "Exception", "BaseException"]),
   ("ConnectionRefusedError", ["ConnectionError", "OSError", "Exception", "BaseException"]),
   ("ConnectionResetError", ["ConnectionError", "OSError", "Exception", "BaseException"]),
   ("FileExistsError", ["OSError", "Exception", "BaseException"]),
   ("FileNotFoundError", ["OSError", "Exception", "BaseException"]),
   ("InterruptedError", ["OSError", "Exception", "BaseException"]),
   ("IsADirectoryError", ["OSError", "Exception", "BaseException"]),
   ("NotADirectoryError", ["OSError", "Exception", "BaseException"]),
   ("PermissionError", ["OSError", "Exception", "BaseException"]),
   ("ProcessLookupError", ["OSError", "Exception", "BaseException"]),
   ("TimeoutError", ["OSError", "Exception", "BaseException"]),
   ("NotImplementedError", ["RuntimeError", "Exception", "BaseException"]),
   ("RecursionError", ["RuntimeError", "Exception", "BaseException"]),
   ("IndentationError", ["SyntaxError", "Exception", "BaseException"]),
   ("TabError", ["IndentationError", "SyntaxError", "Exception", "BaseException"]),
   ("UnicodeError", ["ValueError", "Exception", "BaseException"]),
   ("UnicodeDecodeError", ["UnicodeError", "ValueError", "Exception", "BaseException"]),
   ("UnicodeEncodeError", ["UnicodeError", "ValueError", "Exception", "BaseException"]),
   ("UnicodeTranslateError", ["UnicodeError", "ValueError", "Exception", "BaseException"]),
   ("UserWarning", ["Warning", "Exception", "BaseException"]),
   ("DeprecationWarning", ["Warning", "Exception", "BaseException"]),
   ("PendingDeprecationWarning", ["Warning", "Exception", "BaseException"]),
   ("SyntaxWarning", ["Warning", "Exception", "BaseException"]),
   ("RuntimeWarning", ["Warning", "Exception", "BaseException"]),
   ("FutureWarning", ["Warning", "Exception", "BaseException"]),
   ("ImportWarning", ["Warning", "Exception", "BaseException"]),
   ("UnicodeWarning", ["Warning", "Exception", "BaseException"]),
   ("BytesWarning", ["Warning", "Exception", "BaseException"]),
   ("ResourceWarning", ["Warning", "Exception", "BaseException"]),
   ("EncodingWarning", ["Warning", "Exception", "BaseException"])]

def ancestors : FaultKind → List String
  | .builtin name => (lineage.lookup name).getD ["Exception", "BaseException"]
  | .addressLookup => ["OSError", "Exception", "BaseException"]
  | .own _ _ => ["Exception", "BaseException"]

/-- Is the class the built-in class `name`, or below it? -/
def isA (k : FaultKind) (name : String) : Bool :=
  k == .builtin name || k.ancestors.contains name

def qualified (k : FaultKind) : String :=
  if k.home == "builtins" || k.home == "__main__" then k.name else k.home ++ "." ++ k.name

end FaultKind

namespace Fault

def raised (kind : FaultKind) (args : List Value) : Fault :=
  ⟨kind, args, none, none, false, [], []⟩

instance : Inhabited Fault := ⟨raised (.builtin "Exception") []⟩

def isA (f : Fault) (name : String) : Bool := f.kind.isA name

/-- The system's error numbers that have a class of their own. -/
def errnoKind : Int → String
  | 1 | 13 => "PermissionError"
  | 2 => "FileNotFoundError"
  | 3 => "ProcessLookupError"
  | 4 => "InterruptedError"
  | 10 => "ChildProcessError"
  | 11 | 114 | 115 => "BlockingIOError"
  | 17 => "FileExistsError"
  | 20 => "NotADirectoryError"
  | 21 => "IsADirectoryError"
  | 32 | 108 => "BrokenPipeError"
  | 103 => "ConnectionAbortedError"
  | 104 => "ConnectionResetError"
  | 110 => "TimeoutError"
  | 111 => "ConnectionRefusedError"
  | _ => "OSError"

/-- The class of an exception made from `kind` and `args`: a system error with a number and a
text takes the class of its number. -/
def kindFor (kind : FaultKind) (args : List Value) : FaultKind :=
  if kind == .builtin "OSError" && 2 ≤ args.length && args.length ≤ 5 then
    match (args.headD .null).asInt? with
    | some n => .builtin (errnoKind n)
    | none => kind
  else kind

/-- The exception as it is when it is raised while another one is being handled, if one is. -/
def raisedDuring (f : Fault) (handled : Option Fault) : Fault :=
  match handled with
  | some g => { f with context := some g }
  | none => f

end Fault

end Gelf
