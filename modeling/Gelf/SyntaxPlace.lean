import Gelf.Number.Power
import Gelf.Text.Split
import Gelf.Value

/-!
# Gelf.SyntaxPlace

Where a syntax error is, which its arguments say.

* `SyntaxPlace.ofArgs`: the place, if there are two arguments and the second is a row of four or six.
* `SyntaxPlace.inBrackets`: file and line, as they stand after the text of the error.
* `baseName`: a file's name without the path to it.
-/

namespace Gelf

open Gelf.Text Gelf.Number

structure SyntaxPlace where
  file : Value
  line : Value
  column : Value
  text : Value
  stopLine : Value
  stop : Value

namespace SyntaxPlace

def unknown : SyntaxPlace := ⟨.null, .null, .null, .null, .null, .null⟩

def ofItems : List Value → SyntaxPlace
  | [file, line, column, text] => ⟨file, line, column, text, .null, .null⟩
  | [file, line, column, text, stopLine, stop] => ⟨file, line, column, text, stopLine, stop⟩
  | _ => unknown

def ofArgs : List Value → SyntaxPlace
  | [_, place] => ofItems place.items
  | _ => unknown

end SyntaxPlace

def baseName (path : String) : String :=
  match splitLast '/' path.toList with
  | some (_, name) => String.ofList name
  | none => path

/-- A line number that has no room in a machine word is shown as -1. -/
def shownLine (n : Int) : Int := if fitsWord n then n else -1

/-- A file counts only if it is a text, and a line only if it is a number. -/
def SyntaxPlace.inBrackets (p : SyntaxPlace) : String :=
  match p.file, p.line with
  | .str file, .int n => " (" ++ baseName file ++ ", line " ++ toString (shownLine n) ++ ")"
  | .str file, _ => " (" ++ baseName file ++ ")"
  | _, .int n => " (line " ++ toString (shownLine n) ++ ")"
  | _, _ => ""

end Gelf
