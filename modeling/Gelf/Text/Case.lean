import Gelf.Text.CaseTable

/-!
# Gelf.Text.Case

Upper and lower case of a text.

* `upper`: every character by its full mapping, so one may become several.
* `lower`: likewise, with one rule of context: a capital sigma at the end of a word becomes the
  final sigma.
-/

namespace Gelf.Text

/-- The character that `runs` map `n` to; runs are in ascending order. -/
def shiftBy : List CaseRun → Nat → Nat
  | [], n => n
  | r :: rest, n =>
    if n < r.first then n
    else if n ≤ r.last && (n - r.first) % r.stride == 0 then (n + r.shift).toNat
    else shiftBy rest n

def upperChar (c : Char) : List Char :=
  match upperSpecial.lookup c.toNat with
  | some ns => ns.map Char.ofNat
  | none => [Char.ofNat (shiftBy upperRuns c.toNat)]

def upper (s : List Char) : List Char := s.flatMap upperChar

/-- Does a cased character come next, once ignorable ones are passed over? -/
def facesCased (s : List Char) : Bool :=
  match s.dropWhile (caseIgnorable.has ·.toNat) with
  | [] => false
  | c :: _ => cased.has c.toNat

def capitalSigma : Char := Char.ofNat 0x3a3

/-- The lower case of `c` between what stands before it, nearest first, and what follows. -/
def lowerChar (before : List Char) (c : Char) (after : List Char) : List Char :=
  if c == capitalSigma then
    [Char.ofNat (if facesCased before && !facesCased after then 0x3c2 else 0x3c3)]
  else if c.toNat == 0x130 then [Char.ofNat 0x69, Char.ofNat 0x307]
  else [Char.ofNat (shiftBy lowerRuns c.toNat)]

def lowerFrom (before : List Char) : List Char → List Char
  | [] => []
  | c :: rest => lowerChar before c rest ++ lowerFrom (c :: before) rest

def lower (s : List Char) : List Char := lowerFrom [] s

end Gelf.Text
