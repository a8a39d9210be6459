import Gelf.Traceback.Syntax

/-!
# Gelf.Traceback

The text of an exception with all that led to it: first what it was raised from, then the places
it passed, then its class and text.

* `framesText`: the places; one that repeats is counted from the fourth time on.
* `Fault.led`: what led to an exception.
* `Fault.tracebackBy`: the text with some of the places. `Fault.traceback`: the whole text.
* `stackTraceOf`: the same for what a caller says was raised, and where.
-/

namespace Gelf

open Gelf.Number

def shownRepeats : Nat := 3

def frameLine (f : Frame) : String :=
  "  File \"" ++ f.file ++ "\", line " ++ toString f.line ++ ", in " ++ f.function ++ "\n"

/-- What is said in place of the repeats that are not shown. -/
def repeatLine (count : Nat) : String :=
  if shownRepeats < count then
    let more := count - shownRepeats
    "  [Previous line repeated " ++ toString more ++ " more time" ++
      (if 1 < more then "s" else "") ++ "]\n"
  else ""

/-- Lines of the places after `last`, which has come `count` times already. -/
def frameLines (last : Frame) (count : Nat) : List Frame → String
  | [] => repeatLine count
  | f :: rest =>
    if f = last then
      (if count < shownRepeats then frameLine f else "") ++ frameLines last (count + 1) rest
    else repeatLine count ++ frameLine f ++ frameLines f 1 rest

def framesText : List Frame → String
  | [] => ""
  | f :: rest => "Traceback (most recent call last):\n" ++ frameLine f ++ frameLines f 1 rest

/-- The text of an exception, or a stand-in where asking for it fails. -/
def Fault.safeText (f : Fault) : Script String :=
  f.text.recover fun _ => .done "<exception str() failed>"

def notesText (notes : List String) : String :=
  String.join (notes.map (· ++ "\n"))

def causeSentence : String :=
  "\nThe above exception was the direct cause of the following exception:\n\n"

def contextSentence : String :=
  "\nDuring handling of the above exception, another exception occurred:\n\n"

/-- What led to an exception, the latest first, each with the sentence that stands after it. A cause is
shown always, what was being handled only if it is not suppressed. -/
def Fault.led : Fault → List (Fault × String)
  | ⟨_, _, cause, context, suppress, _, _⟩ =>
    match cause, context with
    | some c, _ => (c, causeSentence) :: c.led
    | none, some c => if suppress then [] else (c, contextSentence) :: c.led
    | none, none => []

/-- An exception with the texts that are asked for before anything is written, and the sentence that
stands after it. -/
structure Shown where
  fault : Fault
  sentence : String
  text : String
  line : String

def Shown.ofFault (f : Fault) (sentence : String) : Script Shown :=
  f.safeText.bind fun text =>
    if f.isA "SyntaxError" then
      (shownLineOf f.args).bind fun line => .done ⟨f, sentence, text, line⟩
    else .done ⟨f, sentence, text, ""⟩

def Shown.ofAll : List (Fault × String) → Script (List Shown)
  | [] => .done []
  | (f, sentence) :: rest =>
    (Shown.ofFault f sentence).bind fun s =>
      (Shown.ofAll rest).bind fun shown => .done (s :: shown)

/-- Class and text of an exception; the class alone where the text is empty. -/
def Shown.lastLines (s : Shown) : Script String :=
  let name := s.fault.kind.qualified
  let notes := notesText s.fault.notes
  if s.fault.isA "SyntaxError" then
    (syntaxLines name s.line s.fault.args).bind fun lines => .done (lines ++ notes)
  else .done ((if s.text == "" then name else name ++ ": " ++ s.text) ++ "\n" ++ notes)

/-- The lines of one exception, with those of its places that `pick` leaves. -/
def Shown.lines (pick : List Frame → List Frame) (s : Shown) : Script String :=
  s.lastLines.bind fun last => .done (framesText (pick s.fault.frames) ++ last ++ s.sentence)

def Shown.allLines (pick : List Frame → List Frame) : List Shown → Script String
  | [] => .done ""
  | s :: rest =>
    (s.lines pick).bind fun own => (allLines pick rest).bind fun more => .done (own ++ more)

/-- All texts are asked for from the latest exception to the earliest; then the lines are written from
the earliest to the latest, or those of the latest alone. -/
def Fault.tracebackBy (pick : List Frame → List Frame) (chained : Bool) (f : Fault) :
    Script String :=
  (Shown.ofAll ((f, "") :: f.led)).bind fun shown =>
    Shown.allLines pick (if chained then shown.reverse else shown.take 1)

def Fault.traceback (f : Fault) : Script String := f.tracebackBy id true

/-- The part of a list that a limit leaves: so many items from the front, or from the back where the
limit is below zero. -/
def within (n : Int) (frames : List Frame) : List Frame :=
  if 0 ≤ n then frames.take n.toNat else frames.drop (frames.length - (-n).toNat)

/-- What a limit leaves of the places in a traceback; nothing is no limit. -/
def limitOf (limit : Value) : Except Fault (List Frame → List Frame) :=
  if limit.isNull then .ok id
  else
    match limit.atLeastInt 0, limit.asInt? with
    | .error f, _ => .error f
    | .ok true, some n => if fitsWord n then .ok (within n) else raise .limitNotCount
    | .ok true, none => raise .limitNotCount
    | .ok false, some n => if fitsWord (-n) then .ok (within n) else raise .intTooLargeForWidth
    | .ok false, none => raise .integerWanted

def framesIn (v limit : Value) : Except Fault (List Frame) :=
  match v with
  | .null => .ok []
  | .stack frames => .ok frames
  | _ => if limit.sameKey (.int 0) then .ok [] else raise (.noAttribute v.className "tb_frame")

/-- The text of an exception with its traceback, and of what led to it if the chain is wanted. -/
def stackTraceOf (v frames limit chain : Value) : Script String :=
  (Script.ofExcept (limitOf limit)).bind fun shown =>
    (Script.ofExcept (framesIn frames limit)).bind fun frames =>
      match v with
      | .fault f =>
        { f with frames := frames }.tracebackBy shown chain.truthy
      | .null => .done (framesText (shown frames) ++ "NoneType: None\n")
      | v =>
        (v.text.recover fun _ => .done "").bind fun _ =>
          .fail (Defect.noAttribute v.className "__suppress_context__").toFault

end Gelf
