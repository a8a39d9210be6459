import Gelf.Chunk

/-!
# Gelf.Deflate.Token

What a compressed payload says: bytes, and copies of bytes that came before.

* `Token`: one of the two. `spell`: the payload of some tokens.
* `Token.parts`: the symbols of a token, with the numbers that follow them.
* `lengthOf`, `distanceOf`: a copy's length and distance from such symbols and numbers.
-/

namespace Gelf.Deflate

inductive Token where
  | byte (b : UInt8)
  | copy (length distance : Nat)
  deriving DecidableEq

def maxCopy : Nat := 258

def minCopy : Nat := 3

/-- How far back a copy can begin. -/
def window : Nat := 32768

/-- Appends `n` bytes, each of which came `distance` bytes before. -/
def copyBack (out : Array UInt8) (distance : Nat) : Nat → Array UInt8
  | 0 => out
  | n + 1 => copyBack (out.push (out.getD (out.size - distance) 0)) distance n

def Token.spellOn (out : Array UInt8) : Token → Array UInt8
  | .byte b => out.push b
  | .copy n distance => copyBack out distance n

def spell (tokens : List Token) : Bytes := (tokens.foldl Token.spellOn #[]).toList

def Token.size : Token → Nat
  | .byte _ => 1
  | .copy n _ => n

/-! ## Symbols -/

/-- A number below `twoTo bits`, to be written in that many bits. -/
structure Extra where
  bits : Nat
  value : Nat
  deriving DecidableEq

def endOfBlock : Nat := 256

/-- Lengths by symbol, from the one after `endOfBlock` on: the least length and its extra bits. -/
def lengthTable : List (Nat × Nat) :=
  [(3, 0), (4, 0), (5, 0), (6, 0), (7, 0), (8, 0), (9, 0), (10, 0), (11, 1), (13, 1), (15, 1),
    (17, 1), (19, 2), (23, 2), (27, 2), (31, 2), (35, 3), (43, 3), (51, 3), (59, 3), (67, 4),
    (83, 4), (99, 4), (115, 4), (131, 5), (163, 5), (195, 5), (227, 5), (258, 0)]

/-- Distances by symbol: the least distance and its extra bits. -/
def distanceTable : List (Nat × Nat) :=
  [(1, 0), (2, 0), (3, 0), (4, 0), (5, 1), (7, 1), (9, 2), (13, 2), (17, 3), (25, 3), (33, 4),
    (49, 4), (65, 5), (97, 5), (129, 6), (193, 6), (257, 7), (385, 7), (513, 8), (769, 8),
    (1025, 9), (1537, 9), (2049, 10), (3073, 10), (4097, 11), (6145, 11), (8193, 12), (12289, 12),
    (16385, 13), (24577, 13)]

/-- The last row whose least value is at most `v`: its number, and what is left over. -/
def lookUp (v : Nat) (table : List (Nat × Nat)) : Nat × Extra :=
  let row := (table.takeWhile fun r => r.1 ≤ v).length - 1
  let (least, bits) := table.getD row (0, 0)
  (row, ⟨bits, v - least⟩)

/-- A token as it is written: a byte or a length first, and a distance after a length. -/
inductive Token.Parts where
  | byte (symbol : Nat)
  | copy (length : Nat) (more : Extra) (distance : Nat) (far : Extra)

def Token.parts : Token → Parts
  | .byte b => .byte b.toNat
  | .copy n distance =>
    let (row, more) := lookUp n lengthTable
    let (place, far) := lookUp distance distanceTable
    .copy (endOfBlock + 1 + row) more place far

end Gelf.Deflate
