import Gelf.Number.Decimal

/-!
# Gelf.Printf.Real

Floats in the three notations of a percent format, sign apart.

* `fixedText`: a given number of places after the point.
* `scientificText`: one digit before the point and an exponent.
* `generalText`: a given number of significant digits, in the shorter of the two notations.
-/

namespace Gelf.Printf

open Gelf.Number

/-- Which notation, with how many digits; `full` keeps the point and the zeros at the end. -/
structure RealStyle where
  notationChar : Char
  precision : Nat
  full : Bool

/-- Digits before and after the point; the point is left out where nothing follows it. -/
def aroundPoint (full : Bool) (whole part : List Char) : List Char :=
  if part.isEmpty && !full then whole else whole ++ '.' :: part

def fixedText (full : Bool) (m : Nat) (e : Int) (places : Nat) : List Char :=
  let digits := fixedDigits m e places
  let whole := digits.length - places
  aroundPoint full (digits.take whole) (digits.drop whole)

/-- The number to `count` significant digits; a zero has its first digit before the point. -/
def significant (m : Nat) (e : Int) (count : Nat) : Decimal :=
  if m == 0 then ⟨List.replicate count '0', 1⟩ else rounded m e count

def withExponent (full : Bool) (digits : List Char) (exponent : Int) : List Char :=
  aroundPoint full (digits.take 1) (digits.drop 1) ++ 'e' :: exponentText exponent

def scientificText (full : Bool) (m : Nat) (e : Int) (places : Nat) : List Char :=
  let d := significant m e (places + 1)
  withExponent full d.digits (d.point - 1)

/-- No float has more significant digits than this. -/
def mostDigits : Nat := 767

def generalText (full : Bool) (m : Nat) (e : Int) (precision : Nat) : List Char :=
  let count := max precision 1
  let d := significant m e (if full then count else min count mostDigits)
  if -4 < d.point && d.point ≤ count then
    let (whole, part) := withPoint d.digits d.point
    aroundPoint full whole (if full then part else dropTrailingZeros part)
  else
    let rest := d.digits.drop 1
    let kept := if full then rest else dropTrailingZeros rest
    withExponent full (d.digits.take 1 ++ kept) (d.point - 1)

/-- As many digits as the precision says are written only of a number, and in the general notation only
if the zeros at the end are kept. -/
def RealStyle.writesAll (style : RealStyle) (x : Float) : Bool :=
  match magnitude x with
  | .finite _ _ => style.full || !(style.notationChar == 'g' || style.notationChar == 'G')
  | .infinite | .notANumber => false

def upperAscii (c : Char) : Char :=
  if 'a' ≤ c && c ≤ 'z' then Char.ofNat (c.toNat - 32) else c

/-- The text of a float without its sign; a capital letter asks for capital letters. -/
def realText (style : RealStyle) (x : Float) : List Char :=
  let plain : List Char := match magnitude x with
    | .notANumber => ['n', 'a', 'n']
    | .infinite => ['i', 'n', 'f']
    | .finite m e =>
      match style.notationChar with
      | 'f' | 'F' => fixedText style.full m e style.precision
      | 'e' | 'E' => scientificText style.full m e style.precision
      | _ => generalText style.full m e style.precision
  if style.notationChar.isUpper then plain.map upperAscii else plain

end Gelf.Printf
