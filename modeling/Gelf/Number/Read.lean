import Gelf.Number.Binary
import Gelf.Text.Blank
import Gelf.Text.Decimal

/-!
# Gelf.Number.Read

Numbers read from text. Blanks may surround a number, a single low line may stand between two
digits, and the digits may be of any script.

* `readInt`: an integer with at most `maxDigits` digits.
* `readFloat`: a decimal with an optional exponent, an infinity or a NaN.
-/

namespace Gelf.Number

open Gelf.Text

/-- An integer text may have this many digits, in either direction. -/
def maxDigits : Nat := 4300

inductive IntError where
  | invalid
  | tooLong (digits : Nat)

/-- The blanks of ASCII that may surround a number. -/
def isNumberBlank (c : Char) : Bool :=
  c == ' ' || (9 ≤ c.toNat && c.toNat ≤ 13)

/-- Digits and blanks of every script in their ASCII form; what is neither becomes `?`. -/
def plainForm (s : List Char) : List Char :=
  if s.all (·.toNat < 128) then s
  else s.map fun c =>
    if c.toNat < 127 then c
    else if isBlank c then ' '
    else match decimalValue? c with
      | some v => Char.ofNat (48 + v)
      | none => '?'

def splitSign : List Char → Bool × List Char
  | '-' :: rest => (true, rest)
  | '+' :: rest => (false, rest)
  | s => (false, s)

/-- Reads digits as a number; low lines are passed over. -/
def digitsValue (s : List Char) : Nat :=
  s.foldl (fun n c => if c == '_' then n else 10 * n + asciiDigitValue c) 0

/-- Does each low line stand between two digits? `last` is the character before `s`. -/
def linesBetweenDigits (last : Char) : List Char → Bool
  | [] => last != '_'
  | c :: rest =>
    (c != '_' || isAsciiDigit last) && (last != '_' || isAsciiDigit c) && linesBetweenDigits c rest

def readPlainInt (s : List Char) : Except IntError Int :=
  let (negative, body) := splitSign (s.dropWhile isNumberBlank)
  let run := body.takeWhile fun c => isAsciiDigit c || c == '_'
  let digits := run.countP isAsciiDigit
  if digits == 0 || !linesBetweenDigits ' ' run then .error .invalid
  else if maxDigits < digits then .error (.tooLong digits)
  else if (body.drop run.length).all isNumberBlank then
    let n := digitsValue run
    .ok (if negative then - (n : Int) else n)
  else .error .invalid

def readInt (s : List Char) : Except IntError Int := readPlainInt (plainForm s)

/-- The float nearest to `n * 10 ^ e`. -/
def scaled (negative : Bool) (n : Nat) (e : Int) : Float :=
  let size : Int := (Nat.repr n).length + e
  if n == 0 || size < -400 then nearest negative 0 1
  else if 400 < size then nearest negative (twoTo 1024) 1
  else if e < 0 then nearest negative n (tenTo (-e).toNat)
  else nearest negative (n * tenTo e.toNat) 1

/-- An exponent, or `0` where none is written; nothing may follow it. -/
def readExponent : List Char → Option Int
  | [] => some 0
  | c :: rest =>
    if c == 'e' || c == 'E' then
      let (negative, digits) := splitSign rest
      if digits.isEmpty || !digits.all isAsciiDigit then none
      else some (if negative then - (digitsValue digits : Int) else digitsValue digits)
    else none

/-- Reads an unsigned decimal: digits on at least one side of the point. -/
def readDecimal (negative : Bool) (s : List Char) : Option Float :=
  let whole := s.takeWhile isAsciiDigit
  let rest := s.drop whole.length
  let (part, rest) := match rest with
    | '.' :: r => (r.takeWhile isAsciiDigit, r.dropWhile isAsciiDigit)
    | r => ([], r)
  if whole.isEmpty && part.isEmpty then none
  else (readExponent rest).map fun e =>
    scaled negative (digitsValue (whole ++ part)) (e - part.length)

def infinity (negative : Bool) : Float := nearest negative (twoTo 1024) 1

def notANumber : Float := Float.ofBits 0x7ff8000000000000

def lowerAscii (c : Char) : Char :=
  if 'A' ≤ c && c ≤ 'Z' then Char.ofNat (c.toNat + 32) else c

def readPlainFloat (s : List Char) : Option Float :=
  let body := stripBy isNumberBlank s
  if body.any (· == '_') && !linesBetweenDigits ' ' body then none
  else
    let (negative, number) := splitSign (body.filter (· != '_'))
    let word := String.ofList (number.map lowerAscii)
    if word == "inf" || word == "infinity" then some (infinity negative)
    else if word == "nan" then some notANumber
    else readDecimal negative number

def readFloat (s : List Char) : Option Float := readPlainFloat (plainForm s)

end Gelf.Number
