import Gelf.Value.Number

/-!
# Gelf.Fault.Made

Exceptions as a caller makes them, from a class and arguments.

* `FaultKind.checkArgs`: the classes that want so many arguments, and of these kinds.
* `Fault.make`: an exception with all that belongs to it, if its class takes the arguments. Groups of
  exceptions cannot be made.
-/

namespace Gelf

open Gelf.Number

/-- An argument that has to be a number of a machine word. -/
def wordArgument (tooLarge : Defect) (v : Value) : Except Fault Unit :=
  v.index.bind fun n => if fitsWord n then .ok () else raise tooLarge

def textArgument (place : Nat) (v : Value) : Except Fault Unit :=
  if v.isStr then .ok () else raise (.argumentNotText place v.className)

/-- What an error of encoding or decoding ends with: from where, to where, and the reason, which stands
at `place`. -/
def checkSpan (start stop reason : Value) (place : Nat) : Except Fault Unit :=
  (wordArgument .intTooLargeForWidth start).bind fun _ =>
    (wordArgument .intTooLargeForWidth stop).bind fun _ => textArgument place reason

def checkBytes : Value → Except Fault Unit
  | .bytes _ => .ok ()
  | v => raise (.bytesWanted v.className)

/-- The place of a syntax error is a row of four or six. -/
def checkPlace (place : Value) : Except Fault Unit :=
  match place with
  | .str _ | .bytes _ | .list _ | .tuple _ | .dict _ =>
    let given := place.items.length
    if given < 4 then raise (.argumentCount "function" "at least 4" given)
    else if 6 < given then raise (.argumentCount "function" "at most 6" given)
    else if given = 5 then raise .stopWithoutLine
    else .ok ()
  | v => raise (.notIterable v.className)

namespace FaultKind

def checkBuiltin (name : String) (args : List Value) : Except Fault Unit :=
  match name, args with
  | "UnicodeDecodeError", [codec, object, start, stop, reason] =>
    (textArgument 1 codec).bind fun _ =>
      (checkSpan start stop reason 5).bind fun _ => checkBytes object
  | "UnicodeEncodeError", [codec, object, start, stop, reason] =>
    (textArgument 1 codec).bind fun _ =>
      (textArgument 2 object).bind fun _ => checkSpan start stop reason 5
  | "UnicodeTranslateError", [object, start, stop, reason] =>
    (textArgument 1 object).bind fun _ => checkSpan start stop reason 4
  | "UnicodeDecodeError", _ | "UnicodeEncodeError", _ =>
    raise (.argumentCount "function" "exactly 5" args.length)
  | "UnicodeTranslateError", _ => raise (.argumentCount "function" "exactly 4" args.length)
  | "ExceptionGroup", _ | "BaseExceptionGroup", _ => raise (.noGroups name)
  | "SyntaxError", [_, place] | "IndentationError", [_, place] | "TabError", [_, place] =>
    checkPlace place
  | "BlockingIOError", _ :: _ :: written :: rest =>
    if rest.length ≤ 2 && tellsWritten (.builtin name) written then
      wordArgument (.writtenTooLarge written.className) written
    else .ok ()
  | _, _ => .ok ()

/-- Can an exception of this class be made from the arguments? -/
def checkArgs (kind : FaultKind) (args : List Value) : Except Fault Unit :=
  match kind with
  | .builtin name => checkBuiltin name args
  | _ => .ok ()

end FaultKind

/-- An exception as a caller makes it. A cause also hides the context. -/
def Fault.make (kind : FaultKind) (args : List Value) (cause context : Option Fault)
    (suppress : Option Bool) (notes : List String) (frames : List Frame) : Except Fault Fault :=
  let kind := kindFor kind args
  (kind.checkArgs args).map fun _ =>
    ⟨kind, args, cause, context, suppress.getD cause.isSome, notes, frames⟩

end Gelf
