import Gelf.Value.Entries

/-!
# Gelf.Traceback.Syntax

The lines with which a traceback shows a syntax error: where it is, the source line there, marks
below it, and the message.

The arguments of such an error can be anything, so most of these lines can fail to be written.

* `caretLine`: the marks. `sourceLines`: the source line with its marks.
* `syntaxLines`: all lines.
-/

namespace Gelf

open Gelf.Text Gelf.Number

/-- Stands a value for a number that can be added to and taken from? -/
def Value.isNumber : Value → Bool
  | .bool _ | .int _ | .float _ => true
  | _ => false

def Value.plusInt (v : Value) (n : Int) : Except Fault Value :=
  match v with
  | .float x => .ok (.float (x + Float.ofInt n))
  | .str _ | .list _ | .tuple _ => raise (.onlyLikeJoins v.className "int")
  | .bytes _ => raise .bytesJoinInt
  | _ =>
    match v.asInt? with
    | some m => .ok (.int (m + n))
    | none => raise (.unsupportedOperands "+" v.className "int")

def Value.minusInt (v : Value) (n : Int) : Except Fault Value :=
  if v.isNumber then v.plusInt (-n) else raise (.unsupportedOperands "-" v.className "int")

/-- Where the marks stop. A stop that is nothing or zero is the column itself, and one mark is the
least. -/
def stopOf (column stop : Value) : Except Fault Value :=
  match stop.checkKey with
  | .error f => .error f
  | .ok () =>
    let same := stop.isNull || stop.sameKey (.int 0) || stop.sameKey column
    let isNan := match column with
      | .float x => isNaN x
      | _ => false
    if (same && !isNan) || stop.sameKey (.int (-1)) then column.plusInt 1
    else .ok (if same then column else stop)

/-- So many marks in a row, if there is room for them. -/
def marksInRow (count : Int) : Except Fault String :=
  if !fitsWord count then raise (.countTooLarge "int")
  else if twoTo 32 < count then raise .outOfMemory
  else .ok (String.ofList (List.replicate count.toNat '^'))

/-- Marks from `first` to `stop`, both counted from zero, below a source line. -/
def marks (shown : List Char) (first : Int) (stop : Value) : Except Fault String :=
  match stop.asInt? with
  | some n =>
    let gap := (shown.take first.toNat).map fun c => if isBlank c then c else ' '
    (marksInRow (n - first)).map fun row => "    " ++ String.ofList gap ++ row ++ "\n"
  | none => raise (.notACount stop.className)

/-- The marks below a source line from a column to a stop, both counted from one, when so many blanks
in front of the line are not shown. -/
def caretLine (shown : List Char) (blanks : Int) (column stop : Value) : Except Fault String := do
  let stop ← stopOf column stop
  let first ← (← column.minusInt 1).minusInt blanks
  let stop ← (← stop.minusInt 1).minusInt blanks
  match first.asInt?, ← first.atLeastInt 0 with
  | _, false => .ok ""
  | some n, true => marks shown n stop
  | none, true => raise .sliceIndex

def isLineFeed (c : Char) : Bool := c == '\n'

def isSourceBlank (c : Char) : Bool := c == ' ' || c == '\n' || c == Char.ofNat 12

/-- The source line of a syntax error and the marks below it, if there is a column. -/
def sourceLines (p : SyntaxPlace) : Except Fault String :=
  match p.text with
  | .null => .ok ""
  | .str s =>
    let kept := (s.toList.reverse.dropWhile isLineFeed).reverse
    let shown := kept.dropWhile isSourceBlank
    let line := "    " ++ String.ofList shown ++ "\n"
    if p.column.isNull then .ok line
    else (caretLine shown (kept.length - shown.length : Nat) p.column p.stop).map (line ++ ·)
  | .bytes _ => raise (.bytesWanted "str")
  | v => raise (.noAttribute v.className "rstrip")

/-- File and line, or what stands after the message instead where there is no line. -/
def placeLine (p : SyntaxPlace) (line : String) : Script (String × String) :=
  match p.line, p.file with
  | .null, .null => .done ("", "")
  | .null, file => file.text.bind fun s => .done ("", " (" ++ s ++ ")")
  | _, file =>
    (file.orElse (.str "<string>")).text.bind fun s =>
      .done ("  File \"" ++ s ++ "\", line " ++ line ++ "\n", "")

/-- The line number as it is shown, asked for before anything is written. -/
def shownLineOf (args : List Value) : Script String :=
  let p := SyntaxPlace.ofArgs args
  p.line.text.bind fun line => p.stopLine.text.bind fun _ => .done line

/-- The lines of a syntax error with these arguments; `name` is that of its class. -/
def syntaxLines (name line : String) (args : List Value) : Script String :=
  let p := SyntaxPlace.ofArgs args
  (placeLine p line).bind fun (place, suffix) =>
    (Script.ofExcept (sourceLines p)).bind fun source =>
      ((args.headD .null).orElse (.str "<no detail available>")).text.bind fun message =>
        .done (place ++ source ++ name ++ ": " ++ message ++ suffix ++ "\n")

end Gelf
