import Gelf.Calendar
import Gelf.Record
import Gelf.Text.Word
import Gelf.Traceback

/-!
# Gelf.Layout

What lays out a record as a line.

* `Formatter`: anything that makes a text of a record.
* `Layout`: a percent format whose keys are a record's attributes. `Layout.make`: it has at least one
  keyed conversion.
* `Layout.apply`: the line for a record, with its exception and its stack after it.
-/

namespace Gelf

open Gelf.Text

structure Formatter where
  format : Record → Script String

structure Layout where
  format : String

namespace Layout

def standard : String := "%(message)s"

/-- The letters that end a conversion, in either case; the dotless and the dotted `i` and the long
`s` are other cases of `i` and `s`. -/
def layoutLetter (c : Char) : Bool :=
  "diouxefgcrsaDIOUXEFGCRSA%".toList.contains c || [0x130, 0x131, 0x17f].contains c.toNat

def skipNumber (text : List Char) : List Char :=
  match Printf.scanNumber text with
  | some (_, rest) => rest
  | none => text

/-- Is this, after a percent sign, a key in brackets and a conversion? -/
def isKeyed : List Char → Bool
  | '(' :: rest =>
    let key := rest.takeWhile isWordChar
    match rest.drop key.length with
    | ')' :: after =>
      let text := skipNumber (after.dropWhile Printf.flagLetters.contains)
      let text := (Printf.scanPrecision text).2
      !key.isEmpty && (match text with
        | c :: _ => layoutLetter c
        | [] => false)
    | _ => false
  | _ => false

def hasKey : List Char → Bool
  | [] => false
  | c :: rest => (c == '%' && isKeyed rest) || hasKey rest

def make (format : String) : Except Fault Layout :=
  let format := if format == "" then standard else format
  if hasKey format.toList then .ok ⟨format⟩ else raise (.badLayout format)

/-- A missing attribute is told by its name. -/
def fillIn (l : Layout) (attributes : Named Value) : Script String :=
  (Printf.format l.format attributes.toValue).recover fun f =>
    if f.isA "KeyError" then
      f.text.bind fun s => .fail ((Defect.missingLayoutField s).toFault.raisedDuring (some f))
    else .fail f

/-- Puts a text, if there is one, on lines of its own. -/
def withBlock (line : String) (block : Value) : Except Fault String :=
  if block.truthy then
    let line := if line.toList.getLast? == some '\n' then line else line ++ "\n"
    match block with
    | .str s => .ok (line ++ s)
    | v => raise (.onlyTextJoins v.className)
  else .ok line

/-- A layout that shows the time has it as one of the attributes. -/
def withTime (l : Layout) (r : Record) : Script Record :=
  if containsText "%(asctime)".toList l.format.toList then
    (Script.ofExcept ((r.get "created").bind Moment.ofValue)).bind fun moment =>
      (Script.ofExcept (r.get "msecs")).bind fun thousandths =>
        (moment.line thousandths).bind fun time => .done (r.set "asctime" (.str time))
  else .done r

/-- The traceback of what a record carries, without the line break at its end. -/
def traceOf (carried : Value) : Script String :=
  (Script.ofExcept (carried.itemAt 2)).bind fun frames =>
    (Script.ofExcept (carried.itemAt 0)).bind fun _ =>
      (Script.ofExcept (carried.itemAt 1)).bind fun v =>
        (stackTraceOf v frames .null (.bool true)).bind fun trace =>
          .done (if trace.toList.getLast? == some '\n' then
            String.ofList trace.toList.dropLast else trace)

/-- A traceback that a record keeps is shown as it is. -/
def exceptionOf (r : Record) : Script Value :=
  (Script.ofExcept (r.get "exc_info")).bind fun carried =>
    (Script.ofExcept (r.get "exc_text")).bind fun kept =>
      if carried.truthy && !kept.truthy then (traceOf carried).bind fun trace => .done (.str trace)
      else .done kept

def apply (l : Layout) (r : Record) : Script String :=
  r.message.bind fun message =>
    (l.withTime (r.set "message" (.str message))).bind fun r =>
      (l.fillIn r.attributes).bind fun line =>
        (exceptionOf r).bind fun trace =>
          (Script.ofExcept (withBlock line trace)).bind fun line =>
            .ofExcept ((r.get "stack_info").bind fun stack => withBlock line stack)

def formatter (l : Layout) : Formatter := ⟨l.apply⟩

end Layout

end Gelf
