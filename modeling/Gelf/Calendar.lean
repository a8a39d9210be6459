import Gelf.Printf.Format

/-!
# Gelf.Calendar

Times as lines of a log show them: a day of the calendar, a time of that day, and thousandths.

* `Moment.ofSeconds`: the moment so many seconds after the start of 1970, or before it.
* `Value.wholeSeconds`: a value as a number of seconds; a fraction is cut off towards the past.
* `Moment.ofValue`: the moment of a value, if it is one whose year has room.
* `Moment.line`: the text of a moment with thousandths of a second.
-/

namespace Gelf

open Gelf.Number

structure Moment where
  year : Int
  month : Nat
  day : Nat
  hour : Nat
  minute : Nat
  second : Nat
  deriving DecidableEq, Repr

/-- A day, counted from a first of March that starts a cycle of four hundred years: its year in the
cycle, the years counted from March too, and its place in that year. The last day of a year that has
one more, and of a cycle, must not begin another. -/
def yearAndDay (day : Nat) : Nat × Nat :=
  let year := (day - day / 1460 + day / 36524 - day / 146096) / 365
  (year, day - (365 * year + year / 4 - year / 100))

namespace Moment

/-- Months are counted from March here, so that the day that some years have more is their last. Five
of them in a row have 153 days. -/
def ofSeconds (seconds : Int) : Moment :=
  let time := (seconds % 86400).toNat
  let days := seconds / 86400 + 719468
  let (year, day) := yearAndDay (days % 146097).toNat
  let place := (5 * day + 2) / 153
  let month := if place < 10 then place + 3 else place - 9
  { year := days / 146097 * 400 + year + (if month ≤ 2 then 1 else 0)
    month := month
    day := day - (153 * place + 2) / 5 + 1
    hour := time / 3600
    minute := time / 60 % 60
    second := time % 60 }

def pair (n : Nat) : String := if n < 10 then "0" ++ toString n else toString n

/-- The day and the time. A year has as many digits as it needs. -/
def text (m : Moment) : String :=
  toString m.year ++ "-" ++ pair m.month ++ "-" ++ pair m.day ++ " " ++
    pair m.hour ++ ":" ++ pair m.minute ++ ":" ++ pair m.second

/-- The years that have room in 32 bits, sign included, counted once from 1900 and once from 0. -/
def checked (m : Moment) : Except Fault Moment :=
  let bound : Int := twoTo 31
  if m.year < 1900 - bound || 1900 + bound ≤ m.year then raise .yearTooFar
  else if bound ≤ m.year then raise .yearTooLarge
  else .ok m

end Moment

/-- The greatest whole number that is not above a float. -/
def floorOf (x : Float) : Except Fault Int :=
  match magnitude x with
  | .notANumber => raise .timeNotANumber
  | .infinite => raise .timeTooLarge
  | .finite m e =>
    let whole : Int := wholePart m e
    .ok (if !isNegative x then whole else if (exactInt? x).isSome then -whole else -whole - 1)

/-- A record that does not say when it was made is of the first second of all. -/
def Value.wholeSeconds (v : Value) : Except Fault Int :=
  let seconds : Except Fault Int := match v with
    | .null => .ok 0
    | .float x => floorOf x
    | v => v.index
  seconds.bind fun n => if fitsWord n then .ok n else raise .timeTooLarge

/-- The moment so many seconds after the start of 1970. -/
def Moment.ofValue (seconds : Value) : Except Fault Moment :=
  seconds.wholeSeconds.bind fun n => (Moment.ofSeconds n).checked

/-- The text of a moment, with thousandths of a second after a comma. -/
def Moment.line (m : Moment) (thousandths : Value) : Script String :=
  Printf.format "%s,%03d" (.tuple [.str m.text, thousandths])

end Gelf
