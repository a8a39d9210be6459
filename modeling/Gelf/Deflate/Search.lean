import Gelf.Deflate.Token

/-!
# Gelf.Deflate.Search

The tokens of a payload.

A copy is looked for among the places where the same three bytes began, the latest place first. The
copy that is found is held back for one byte, and gives way to a longer one that begins there.

* `Trails`: where three bytes began. A place that is zero stands for none, so nothing is copied from
  the very first byte on.
* `longest`: the longest copy that can stand at a position.
* `tokenize`: the tokens of a payload.
-/

namespace Gelf.Deflate

/-- How many bytes from `i` on equal those from `j` on, at most `limit`. -/
def matchLength (data : Array UInt8) (i j : Nat) : Nat → Nat
  | 0 => 0
  | limit + 1 =>
    match data[i]?, data[j]? with
    | some a, some b => if a == b then matchLength data (i + 1) (j + 1) limit + 1 else 0
    | _, _ => 0

/-- The place where each three bytes began last, and the place before each place. -/
structure Trails where
  newest : Array Nat
  older : Array Nat

namespace Trails

def empty : Trails := ⟨Array.replicate window 0, Array.replicate window 0⟩

/-- The row of the three bytes from `i` on. Others may share it. -/
def row (data : Array UInt8) (i : Nat) : Nat :=
  let byteAt (k : Nat) : Nat := (data.getD (i + k) 0).toNat
  Nat.xor (byteAt 0 * 1024) (Nat.xor (byteAt 1 * 32) (byteAt 2)) % window

def hasRow (data : Array UInt8) (i : Nat) : Bool := i + minCopy ≤ data.size

def newestAt (t : Trails) (data : Array UInt8) (i : Nat) : Nat :=
  if hasRow data i then t.newest.getD (row data i) 0 else 0

def before (t : Trails) (place : Nat) : Nat := t.older.getD (place % window) 0

/-- Notes that three bytes begin at `i`. -/
def enter (data : Array UInt8) (i : Nat) : Trails → Trails
  | ⟨newest, older⟩ =>
    if hasRow data i then
      let last := newest.getD (row data i) 0
      ⟨newest.setIfInBounds (row data i) i, older.setIfInBounds (i % window) last⟩
    else ⟨newest, older⟩

/-- Notes `count` places from `i` on. -/
def enterAll (data : Array UInt8) (i : Nat) : Nat → Trails → Trails
  | 0, t => t
  | count + 1, t => enterAll data (i + 1) count (t.enter data i)

end Trails

/-- A copy, by its length and the place where it begins. -/
structure Found where
  length : Nat
  place : Nat

def Found.nothing : Found := ⟨minCopy - 1, 0⟩

/-- How far back copies are looked for. -/
def reach : Nat := window - maxCopy - minCopy - 1

/-- A copy of this length ends the search. -/
def enough : Nat := 128

/-- A copy of this length is not held back. -/
def longHeld : Nat := 16

/-- After a copy of this length fewer places are tried. -/
def goodHeld : Nat := 8

def fewTries : Nat := 32

def allTries : Nat := 128

/-- The farthest a copy of the least length may be from its place. -/
def nearby : Nat := 4096

def tryPlaces (data : Array UInt8) (t : Trails) (i : Nat) : Nat → Nat → Found → Found
  | 0, _, best => best
  | tries + 1, place, best =>
    let room := min maxCopy (data.size - i)
    let n := matchLength data i place room
    if best.length < n && min enough room ≤ n then ⟨n, place⟩
    else
      let best := if best.length < n then ⟨n, place⟩ else best
      let next := t.before place
      if next ≤ i - reach then best else tryPlaces data t i tries next best

/-- The longest copy at `i`, if there is one that is longer than the copy held back. -/
def longest (data : Array UInt8) (t : Trails) (i : Nat) (held : Found) : Found :=
  let place := t.newestAt data i
  if place == 0 || longHeld ≤ held.length || reach < i - place then .nothing
  else
    let tries := if goodHeld ≤ held.length then fewTries else allTries
    let found := tryPlaces data t i tries place held
    if found.length == minCopy && nearby < i - found.place then .nothing else found

/-- Tokens from position `i` on, after those in `out`. If something is `waiting`, the byte before
`i` is not told yet, and `held` is the copy found for it. -/
def tokensFrom (data : Array UInt8) : Nat → Nat → Trails → Bool → Found → Array Token → Array Token
  | 0, _, _, _, _, out => out
  | fuel + 1, i, t, waiting, held, out =>
    let last := Token.byte (data.getD (i - 1) 0)
    if data.size ≤ i then if waiting then out.push last else out
    else
      let found := longest data t i held
      let t := t.enter data i
      if minCopy ≤ held.length && found.length ≤ held.length then
        let t := t.enterAll data (i + 1) (held.length - 2)
        tokensFrom data fuel (i - 1 + held.length) t false .nothing
          (out.push (.copy held.length (i - 1 - held.place)))
      else
        tokensFrom data fuel (i + 1) t true found (if waiting then out.push last else out)

def tokenize (payload : Bytes) : List Token :=
  let data := payload.toArray
  (tokensFrom data (data.size + 1) 0 .empty false .nothing #[]).toList

end Gelf.Deflate
