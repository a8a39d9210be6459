import Gelf.Number.Binary

/-!
# Gelf.Number.Decimal

Floats as decimal digits.

* `Decimal`: digits and the place of the point, `0.d₁d₂… * 10 ^ point`.
* `shortest`: the fewest digits that read back as the same float, of those the nearest.
* `rounded`: a given count of significant digits. `fixedDigits`: a given count of places.
* `floatText`: the text of a float, positional from `1e-4` up to below `1e16`.
-/

namespace Gelf.Number

structure Decimal where
  digits : List Char
  point : Int

/-- Where the point of a positive fraction stands: the `p` with `10 ^ (p - 1) ≤ num / den < 10 ^ p`. -/
def pointOf (num den : Nat) : Int :=
  let d : Int := ((Nat.repr num).length : Int) - ((Nat.repr den).length : Int)
  let reaches := if d < 0 then den ≤ num * tenTo (-d).toNat else den * tenTo d.toNat ≤ num
  if reaches then d + 1 else d

/-- The fraction `num / den` in units of `10 ^ exponent`. -/
def inUnits (num den : Nat) (exponent : Int) : Nat × Nat :=
  if exponent < 0 then (num * tenTo (-exponent).toNat, den)
  else (num, den * tenTo exponent.toNat)

def dropTrailingZeros (s : List Char) : List Char :=
  (s.reverse.dropWhile (· == '0')).reverse

/-- The digits of `n` units of `10 ^ exponent`, without zeros at the end. -/
def Decimal.ofUnits (n : Nat) (exponent : Int) : Decimal :=
  let s := (Nat.repr n).toList
  ⟨dropTrailingZeros s, exponent + s.length⟩

/-- Does `n` units of `10 ^ exponent` round to the float `m * 2 ^ e`? The reals that do form an
interval that reaches half way to each neighbour, ends included when `m` is even. The neighbour
below a power of two is only half as far. -/
def readsBack (m : Nat) (e : Int) (n : Nat) (exponent : Int) : Bool :=
  let down := if m == twoTo 52 && e != -1074 then 1 else 2
  let low := ratioOf (4 * m - down) (e - 2)
  let high := ratioOf (4 * m + 2) (e - 2)
  let (num, den) := if exponent < 0 then (n, tenTo (-exponent).toNat)
    else (n * tenTo exponent.toNat, 1)
  if m % 2 == 0 then low.1 * den ≤ num * low.2 && num * high.2 ≤ high.1 * den
  else low.1 * den < num * low.2 && num * high.2 < high.1 * den

/-- The better of the two `count`-digit neighbours of `m * 2 ^ e` that read back, if any does. -/
def withDigits? (m : Nat) (e point : Int) (count : Nat) : Option Decimal :=
  let unit := point - count
  let exact := ratioOf m e
  let (num, den) := inUnits exact.1 exact.2 unit
  let below := num / den
  let rest := num % den
  let okBelow := readsBack m e below unit
  let okAbove := readsBack m e (below + 1) unit
  let preferAbove := den < 2 * rest || (2 * rest == den && below % 2 == 1)
  if okBelow && okAbove then some (.ofUnits (if preferAbove then below + 1 else below) unit)
  else if okBelow then some (.ofUnits below unit)
  else if okAbove then some (.ofUnits (below + 1) unit)
  else none

/-- The fewest digits for the positive float `m * 2 ^ e`: seventeen are always enough. -/
def shortest (m : Nat) (e : Int) : Decimal :=
  let (num, den) := ratioOf m e
  let point := pointOf num den
  match (List.range 17).findSome? fun k => withDigits? m e point (k + 1) with
  | some d => d
  | none => .ofUnits (num / den) 0

/-- The positive fraction `m * 2 ^ e` to `count` significant digits, ties to even. -/
def rounded (m : Nat) (e : Int) (count : Nat) : Decimal :=
  let (num, den) := ratioOf m e
  let point := pointOf num den
  let (a, b) := inUnits num den (point - count)
  let s := (Nat.repr (roundDiv a b)).toList
  ⟨s.take count, point + s.length - count⟩

/-- The fraction `m * 2 ^ e` with `places` digits after the point: all the digits, point left out. -/
def fixedDigits (m : Nat) (e : Int) (places : Nat) : List Char :=
  let (num, den) := ratioOf m e
  let s := (Nat.repr (roundDiv (num * tenTo places) den)).toList
  List.replicate (places + 1 - s.length) '0' ++ s

def exponentText (x : Int) : List Char :=
  let s := (Nat.repr x.natAbs).toList
  (if x < 0 then '-' else '+') :: (List.replicate (2 - s.length) '0' ++ s)

def signText (negative : Bool) : List Char := if negative then ['-'] else []

/-- Digits with the point after the first `whole` ones; `0` stands for none. -/
def withPoint (digits : List Char) (whole : Int) : List Char × List Char :=
  if whole ≤ 0 then (['0'], List.replicate (-whole).toNat '0' ++ digits)
  else
    let padded := digits ++ List.replicate (whole.toNat - digits.length) '0'
    (padded.take whole.toNat, padded.drop whole.toNat)

def Decimal.text (d : Decimal) : List Char :=
  if -4 < d.point && d.point ≤ 16 then
    let (whole, part) := withPoint d.digits d.point
    whole ++ '.' :: (if part.isEmpty then ['0'] else part)
  else
    match d.digits with
    | [] => []
    | [c] => c :: 'e' :: exponentText (d.point - 1)
    | c :: rest => c :: '.' :: rest ++ 'e' :: exponentText (d.point - 1)

/-- The text of a float. The only text that keeps the sign of a zero, and none of a NaN. -/
def floatText (x : Float) : List Char :=
  match magnitude x with
  | .notANumber => "nan".toList
  | .infinite => signText (isNegative x) ++ "inf".toList
  | .finite m e =>
    signText (isNegative x) ++ if m == 0 then "0.0".toList else (shortest m e).text

end Gelf.Number
