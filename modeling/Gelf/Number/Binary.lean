import Gelf.Number.Power

/-!
# Gelf.Number.Binary

Floats as exact numbers: a finite one is a sign, an integer and a power of two.

* `Magnitude`, `magnitude`: what the bits of a float stand for, its sign apart.
* `nearest`: the float nearest to a fraction; a tie goes to the even neighbour, and a value past
  the greatest float becomes infinite.
* `ofNat?`: an integer as a float, if it does not round to infinity.
* `ceilQuotient`: the quotient of two integers as a float, rounded up to an integer.
-/

namespace Gelf.Number

inductive Magnitude where
  | finite (mantissa : Nat) (exponent : Int)
  | infinite
  | notANumber

def isNegative (x : Float) : Bool := x.toBits.toNat / twoTo 63 == 1

def magnitude (x : Float) : Magnitude :=
  let bits : Nat := x.toBits.toNat
  let field : Nat := bits / twoTo 52 % twoTo 11
  let fraction : Nat := bits % twoTo 52
  if field == 2047 then if fraction == 0 then .infinite else .notANumber
  else if field == 0 then .finite fraction (-1074)
  else .finite (fraction + twoTo 52) ((field : Int) - 1075)

/-- The fraction `m * 2 ^ e` as numerator and denominator. -/
def ratioOf (m : Nat) (e : Int) : Nat × Nat :=
  if e < 0 then (m, twoTo (-e).toNat) else (m * twoTo e.toNat, 1)

/-- The quotient of two integers, rounded to the nearest one; a tie goes to the even one. -/
def roundDiv (num den : Nat) : Nat :=
  let q := num / den
  let r := num % den
  if den < 2 * r || (2 * r == den && q % 2 == 1) then q + 1 else q

/-- The exponent of the last of the 53 binary places that `num / den` has as a float. -/
def lastPlace (num den : Nat) : Int :=
  let guess : Int := (Nat.log2 num : Int) - (Nat.log2 den : Int) - 52
  let below := if guess < 0 then num * twoTo (-guess).toNat < twoTo 52 * den
    else num < twoTo 52 * den * twoTo guess.toNat
  if below then guess - 1 else guess

/-- Bits of the float nearest to the positive fraction `num / den`, sign apart. -/
def nearestBits (num den : Nat) : Nat :=
  let unit := max (lastPlace num den) (-1074)
  let m := if unit < 0 then roundDiv (num * twoTo (-unit).toNat) den
    else roundDiv num (den * twoTo unit.toNat)
  min ((unit + 1074).toNat * twoTo 52 + m) (2047 * twoTo 52)

def nearest (negative : Bool) (num den : Nat) : Float :=
  let bits := if num == 0 then 0 else nearestBits num den
  Float.ofBits (UInt64.ofNat (if negative then bits + twoTo 63 else bits))

def ofNat? (n : Nat) : Option Float :=
  let x := nearest false n 1
  match magnitude x with
  | .finite _ _ => some x
  | _ => none

def ofInt? (n : Int) : Option Float :=
  if n < 0 then (ofNat? n.natAbs).map (- ·) else ofNat? n.natAbs

def wholePart (m : Nat) (e : Int) : Nat :=
  let (num, den) := ratioOf m e
  num / den

/-- The least integer that is not below the quotient of two integers, once the quotient is rounded to
53 binary places. -/
def ceilQuotient (num den : Nat) : Nat :=
  let unit := lastPlace num den
  if unit < 0 then
    let scale := twoTo (-unit).toNat
    (roundDiv (num * scale) den + scale - 1) / scale
  else roundDiv num (den * twoTo unit.toNat) * twoTo unit.toNat

def isNaN (x : Float) : Bool :=
  match magnitude x with
  | .notANumber => true
  | _ => false

/-- The value of a finite float as an integer, if it is one. -/
def exactInt? (x : Float) : Option Int :=
  match magnitude x with
  | .finite m e =>
    let (num, den) := ratioOf m e
    if num % den == 0 then some (if isNegative x then - (num / den : Nat) else (num / den : Nat))
    else none
  | _ => none

/-- Is the integer less than the float, as exact numbers? No number is less than a NaN. -/
def intLtFloat (n : Int) (x : Float) : Bool :=
  match magnitude x with
  | .notANumber => false
  | .infinite => !isNegative x
  | .finite m e =>
    let (num, den) := ratioOf m e
    let v : Int := if isNegative x then - (num : Int) else num
    n * den < v

def floatLtInt (x : Float) (n : Int) : Bool :=
  match magnitude x with
  | .notANumber => false
  | .infinite => isNegative x
  | .finite m e =>
    let (num, den) := ratioOf m e
    let v : Int := if isNegative x then - (num : Int) else num
    v < n * den

theorem roundDiv_mul (q den : Nat) (h : 0 < den) : roundDiv (q * den) den = q := by
  simp [roundDiv, h]
  omega

end Gelf.Number
