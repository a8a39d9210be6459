import Gelf.Layout
import Gelf.Report
import Gelf.Template

/-!
# Gelf.Rendered

The texts of a message: what a record says, short and in full.

* `shorten`: a text of at most so many characters; `Value.shorten` does the same for other values.
* `Renderer`: whether stack traces are wanted, what lays out a line, if anything does, and whether
  failures are reported.
* `Renderer.text`: the record's text: as it is laid out, else by numbered placeholders, else by
  percent conversions, else as it was written.
* `Renderer.render`: the text, its short form and its full form.
-/

namespace Gelf

/-- The bound on a short message, in characters. -/
def maxShortLength : Nat := 250

/-- A text that is too long is cut to one character below the bound. -/
def shorten (text : String) : String :=
  if maxShortLength < text.length then String.ofList (text.toList.take (maxShortLength - 1)) else text

/-- What has a length is cut like a text, but a dictionary has no front. -/
def Value.shorten (v : Value) : Except Fault Value :=
  (Printf.lengthOf v).bind fun n =>
    if n ≤ maxShortLength then .ok v
    else match v with
      | .str s => .ok (.str (Gelf.shorten s))
      | .bytes b => .ok (.bytes (b.take (maxShortLength - 1)))
      | .list xs => .ok (.list (xs.take (maxShortLength - 1)))
      | .tuple xs => .ok (.tuple (xs.take (maxShortLength - 1)))
      | _ => raise (.unhashable "slice")

def stackSeparator : String := "\n\r"

structure Rendered where
  text : String
  short : String
  full : String

structure Renderer where
  wantsStack : Value
  layout : Option Formatter
  tellsFailures : Bool

def argumentList : Value → Except Fault (List Value)
  | .str s => .ok (Value.str s).items
  | .bytes b => .ok (Value.bytes b).items
  | .list xs => .ok xs
  | .tuple xs => .ok xs
  | .dict es => .ok (Value.dict es).items
  | v => raise (.notIterable v.className)

/-- The faults of formatting that leave the message as it was written. -/
def isFormatFault (f : Fault) : Bool :=
  f.isA "TypeError" || f.isA "ValueError" || f.isA "KeyError"

def notFormatted (raw : String) (f : Fault) : Report :=
  ⟨"Could not format log message: " ++ quotedText raw, some f, .formatting⟩

/-- Percent conversions, or the message as written where they fail. -/
def Renderer.conversionsOr (renderer : Renderer) (raw message : String) (args : Value) :
    Script String :=
  ((Printf.formatChecked raw args).bind fun out => .done (out.getD raw)).recover fun f =>
    if !isFormatFault f then .fail f
    else if renderer.tellsFailures then
      (Script.request (.unformatted raw f)).bind fun _ => .done message
    else .done message

def rawMessage : Value → Script String
  | .null => .done ""
  | v => v.text

/-- The message of a record that nothing lays out. -/
def Renderer.freeText (renderer : Renderer) (r : Record) : Script String :=
  (Script.ofExcept (r.get "msg")).bind fun message =>
    (rawMessage message).bind fun raw =>
      (Script.ofExcept (r.get "args")).bind fun args =>
        if !args.truthy then .done raw
        else match args with
          | .dict _ => renderer.conversionsOr raw raw args
          | _ =>
            (Script.ofExcept (argumentList args)).bind fun items =>
              (Template.fill raw items).bind fun message =>
                if message ≠ raw then .done message
                else renderer.conversionsOr raw message args

/-- The record as it is laid out: what was raised is left out. -/
def withoutException (r : Record) : Record := (r.set "exc_info" .null).set "exc_text" .null

def Renderer.text (renderer : Renderer) (r : Record) : Script String :=
  match renderer.layout with
  | some l => (Script.ofExcept r.copied).bind fun r => l.format (withoutException r)
  | none => renderer.freeText r

/-- The traceback of what a record carries, if that is a tuple that begins with something. -/
def stackTraceIn (carried : Value) : Script (Option String) :=
  let all (s : Script String) : Script (Option String) := s.bind fun s => .done (some s)
  match carried with
  | .tuple [] => .done none
  | .tuple (.null :: _) => .done none
  | .tuple [.fault f] => all f.traceback
  | .tuple [v] => .fail (Defect.notAnException v.className).toFault
  | .tuple [_, _] => .fail Defect.unevenTraceback.toFault
  | .tuple [_, v, frames] => all (stackTraceOf v frames .null (.bool true))
  | .tuple [_, v, frames, limit] => all (stackTraceOf v frames limit (.bool true))
  | .tuple [_, v, frames, limit, chain] => all (stackTraceOf v frames limit chain)
  | .tuple items =>
    .fail (Defect.tooManyPositional "format_exception" "from 1 to 5 positional arguments"
      items.length).toFault
  | _ => .done none

def Renderer.fullText (renderer : Renderer) (r : Record) (text : String) : Script String :=
  if renderer.wantsStack.truthy then
    (Script.ofExcept (r.get "exc_info")).bind fun carried =>
      (stackTraceIn carried).bind fun
        | some trace => .done (if trace == "" then text else text ++ stackSeparator ++ trace)
        | none => .done text
  else .done text

def Renderer.render (renderer : Renderer) (r : Record) : Script Rendered :=
  (renderer.text r).bind fun text =>
    (renderer.fullText r text).bind fun full => .done ⟨text, shorten text, full⟩

theorem shorten_length_le (text : String) : (shorten text).length ≤ maxShortLength := by
  unfold shorten
  split
  · simp only [String.length_ofList, List.length_take, maxShortLength]
    omega
  · omega

end Gelf
