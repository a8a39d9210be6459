import Gelf.Printf.Real
import Gelf.Printf.Spec

/-!
# Gelf.Printf.Piece

Values under a conversion.

* `Piece`: a converted value: sign, mark of the base, and the rest.
* `Spec.convert`: the value as its conversion letter asks for it.
* `Spec.place`: a piece in its field.
-/

namespace Gelf.Printf

open Gelf.Text Gelf.Number

/-- A converted value: its sign, the mark of its base, and the rest. Only a number's field can be
filled with zeros. -/
structure Piece where
  sign : List Char
  lead : List Char
  body : List Char
  isNumber : Bool

def Piece.ofText (s : List Char) : Piece := ⟨[], [], s, false⟩

def signFor (flags : Flags) (negative : Bool) : List Char :=
  if negative then ['-'] else if flags.plus then ['+'] else if flags.blank then [' '] else []

/-- Digits with zeros in front of them, up to the precision. -/
def withPrecision (precision : Option Nat) (digits : List Char) : List Char :=
  List.replicate (precision.getD 0 - digits.length) '0' ++ digits

/-- Above this a field, or the digits in it, are taken not to fit in memory. -/
def memoryLimit : Nat := twoTo 30

/-- The mark of an integer's base, and its digits. -/
def baseDigits (conversion : Char) (n : Nat) : Except Fault (List Char × List Char) :=
  match conversion with
  | 'o' => .ok (['0', 'o'], Nat.toDigits 8 n)
  | 'x' => .ok (['0', 'x'], Nat.toDigits 16 n)
  | 'X' => .ok (['0', 'X'], (Nat.toDigits 16 n).map upperAscii)
  | _ => (intText n).map fun s => ([], s.toList)

def integerPiece (spec : Spec) (n : Int) : Except Fault Piece :=
  let precision := spec.precision.getD 0
  if maxPrecision - 3 < precision then raise .precisionTooLarge
  else match baseDigits spec.conversion n.natAbs with
    | .error f => .error f
    | .ok (lead, digits) =>
      if memoryLimit < precision then raise .outOfMemory
      else .ok ⟨signFor spec.flags (n < 0), if spec.flags.full then lead else [],
        withPrecision spec.precision digits, true⟩

/-- A number that can be written in decimal digits: a float gives up its fraction. -/
def decimalArgument (conversion : Char) (v : Value) : Except Fault Int :=
  if [NumberMethod.index, .int, .float].any v.offers then
    match v.toInt with
    | .ok n => .ok n
    | .error f =>
      if f.isA "TypeError" then raise (.needsReal conversion v.className) else .error f
  else raise (.needsReal conversion v.className)

def wholeArgument (conversion : Char) (v : Value) : Except Fault Int :=
  match v.index with
  | .ok n => .ok n
  | .error _ => raise (.needsInteger conversion v.className)

/-- The character of a single-character text, or of a number. -/
def charArgument : Value → Except Fault Char
  | .str s =>
    match s.toList with
    | [c] => .ok c
    | _ => raise .charNeedsIntOrChar
  | v =>
    match v.index with
    | .error _ => raise .charNeedsIntOrChar
    | .ok n =>
      if n < 0 || 0x110000 ≤ n then raise .charOutOfRange else .ok (Char.ofNat n.toNat)

def realPiece (spec : Spec) (x : Float) : Except Fault Piece :=
  let style : RealStyle := ⟨spec.conversion, spec.precision.getD 6, spec.flags.full⟩
  if memoryLimit < style.precision && style.writesAll x then raise .outOfMemory
  else .ok ⟨signFor spec.flags (isNegative x && !isNaN x), [], realText style x, true⟩

def clip (precision : Option Nat) (s : List Char) : List Char :=
  match precision with
  | some p => s.take p
  | none => s

def Spec.convert (spec : Spec) (index : Nat) (v : Value) : Script Piece :=
  let textPiece (s : List Char) : Piece := .ofText (clip spec.precision s)
  match spec.conversion with
  | 's' => v.text.bind fun s => .done (textPiece s.toList)
  | 'r' => (Script.ofExcept v.quoted).bind fun s => .done (textPiece s.toList)
  | 'a' => (Script.ofExcept v.quoted).bind fun s => .done (textPiece (asciiOnly s.toList))
  | 'c' => (Script.ofExcept (charArgument v)).bind fun c => .done (.ofText [c])
  | 'd' | 'i' | 'u' =>
    (Script.ofExcept (decimalArgument spec.conversion v)).bind fun n =>
      .ofExcept (integerPiece spec n)
  | 'o' | 'x' | 'X' =>
    (Script.ofExcept (wholeArgument spec.conversion v)).bind fun n =>
      .ofExcept (integerPiece spec n)
  | 'e' | 'E' | 'f' | 'F' | 'g' | 'G' =>
    (Script.ofExcept v.asReal).bind fun x => .ofExcept (realPiece spec x)
  | c => .fail (Defect.unsupportedCharacter c index).toFault

/-- A piece in its field: zeros go between sign and digits, spaces on the outside. -/
def Spec.layOut (spec : Spec) (p : Piece) : List Char :=
  let whole := p.sign ++ p.lead ++ p.body
  let missing := spec.width.getD 0 - whole.length
  if spec.flags.left then whole ++ List.replicate missing ' '
  else if spec.flags.zero && p.isNumber then
    p.sign ++ p.lead ++ List.replicate missing '0' ++ p.body
  else List.replicate missing ' ' ++ whole

def Spec.place (spec : Spec) (p : Piece) : Except Fault (List Char) :=
  if memoryLimit < spec.width.getD 0 then raise .outOfMemory else .ok (spec.layOut p)

end Gelf.Printf
