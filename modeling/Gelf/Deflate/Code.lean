import Gelf.Deflate.Token
import Gelf.Number.Power

/-!
# Gelf.Deflate.Code

Prefix codes.

A code is told by the lengths of its words alone: words of one length are consecutive numbers, in the
order of their symbols, and shorter words come first.

* `Code.words`: the words of a code. `Reader.ofLengths`: what reads such words.
* `wordLengths`: the lengths that suit how often each symbol occurs, none above a limit.
-/

namespace Gelf.Deflate

open Gelf.Number

/-! ## Bits -/

/-- The lowest `n` bits of a number, lowest first. -/
def bitsOf : Nat → Nat → List Bool
  | 0, _ => []
  | n + 1, v => (v % 2 == 1) :: bitsOf n (v / 2)

/-- A word: its highest bit comes first. -/
def wordBits (n v : Nat) : List Bool := (bitsOf n v).reverse

def Extra.toBits (e : Extra) : List Bool := bitsOf e.bits e.value

/-- Reads a number of `n` bits, lowest first. -/
def takeBits : Nat → List Bool → Nat × List Bool
  | 0, bits => (0, bits)
  | _ + 1, [] => (0, [])
  | n + 1, b :: rest =>
    let (v, rest) := takeBits n rest
    (2 * v + b.toNat, rest)

/-! ## Words -/

/-- The words of a code, by symbol. A symbol that does not occur has no bits. -/
abbrev Code := Array (List Bool)

def countOf (lengths : List Nat) (n : Nat) : Nat := if n = 0 then 0 else lengths.count n

/-- The first word of each length from 0 to `n`, as a number; the lengths come last first. -/
def firstWords (lengths : List Nat) : Nat → List Nat
  | 0 => [0]
  | n + 1 =>
    let shorter := firstWords lengths n
    (2 * (shorter.headD 0 + countOf lengths n)) :: shorter

/-- Words for the symbols in order, when `next` holds the next word of each length. -/
def assign (next : Array Nat) : List Nat → List (List Bool)
  | [] => []
  | n :: rest =>
    let word := if n = 0 then [] else wordBits n (next.getD n 0)
    word :: assign (next.setIfInBounds n (next.getD n 0 + 1)) rest

def maxWord : Nat := 15

def Code.words (lengths : List Nat) : Code :=
  (assign (firstWords lengths maxWord).reverse.toArray lengths).toArray

def Code.word (c : Code) (symbol : Nat) : List Bool := c.getD symbol []

/-- Reads words bit by bit. -/
inductive Reader where
  | nothing
  | symbol (s : Nat)
  | fork (zero one : Reader)

namespace Reader

def insert (r : Reader) (s : Nat) : List Bool → Reader
  | [] => .symbol s
  | b :: word =>
    let (zero, one) := match r with
      | .fork zero one => (zero, one)
      | _ => (.nothing, .nothing)
    if b then .fork zero (one.insert s word) else .fork (zero.insert s word) one

def read : Reader → List Bool → Option (Nat × List Bool)
  | .symbol s, bits => some (s, bits)
  | .fork zero one, b :: bits => if b then one.read bits else zero.read bits
  | _, _ => none

/-- Adds the words of the symbols from `s` on. -/
def insertAll (r : Reader) (s : Nat) : List (List Bool) → Reader
  | [] => r
  | word :: rest => (if word.isEmpty then r else r.insert s word).insertAll (s + 1) rest

def ofLengths (lengths : List Nat) : Reader :=
  Reader.nothing.insertAll 0 (Code.words lengths).toList

end Reader

/-! ## Lengths for frequencies -/

/-- Symbols joined two by two, the rarest first. -/
inductive Tree where
  | leaf (symbol weight : Nat)
  | join (weight height : Nat) (left right : Tree)

namespace Tree

def weight : Tree → Nat
  | .leaf _ w => w
  | .join w _ _ _ => w

def height : Tree → Nat
  | .leaf _ _ => 0
  | .join _ h _ _ => h

/-- The lighter tree goes first, and of two equally heavy ones the lower. -/
def goesBefore (a b : Tree) : Bool :=
  a.weight < b.weight || (a.weight == b.weight && a.height ≤ b.height)

def symbol? : Tree → List Nat
  | .leaf s _ => [s]
  | .join _ _ _ _ => []

def joined (a b : Tree) : Tree := .join (a.weight + b.weight) (max a.height b.height + 1) a b

instance : Inhabited Tree := ⟨.leaf 0 0⟩

/-- The symbols with their depths, below a root at depth `d`. -/
def depths (d : Nat) : Tree → List (Nat × Nat)
  | .leaf s _ => [(s, d)]
  | .join _ _ a b => a.depths (d + 1) ++ b.depths (d + 1)

/-- How many joints and symbols are deeper than `limit`, below a root at depth `d`. -/
def deeper (limit d : Nat) (t : Tree) : Nat :=
  (if limit < d then 1 else 0) + match t with
    | .leaf _ _ => 0
    | .join _ _ a b => a.deeper limit (d + 1) + b.deeper limit (d + 1)

end Tree

/-! A heap: the two trees below place `k` are at `2 * k + 1` and `2 * k + 2`. -/

/-- Moves the tree at `k` down until none below it goes before it. -/
def sink (heap : Array Tree) : Nat → Nat → Array Tree
  | 0, _ => heap
  | fuel + 1, k =>
    let child := 2 * k + 1
    if heap.size ≤ child then heap
    else
      let child :=
        if child + 1 < heap.size && (heap.getD (child + 1) default).goesBefore (heap.getD child default)
        then child + 1 else child
      if (heap.getD k default).goesBefore (heap.getD child default) then heap
      else sink (heap.swapIfInBounds k child) fuel child

/-- Makes a heap of any trees: those at the places below `k` sink in turn, the last first. -/
def settle (heap : Array Tree) : Nat → Array Tree
  | 0 => heap
  | k + 1 => settle (sink heap heap.size k) k

/-- Takes the first tree off a heap. -/
def takeFirst (heap : Array Tree) : Tree × Array Tree :=
  let first := heap.getD 0 default
  let heap := (heap.setIfInBounds 0 (heap.back?.getD default)).pop
  (first, sink heap heap.size 0)

/-- Joins the first two trees until one is left. Also the symbols, in the order in which they were
joined. -/
def joinAll : Nat → Array Tree → List Nat → Tree × List Nat
  | 0, heap, taken => (heap.getD 0 default, taken.reverse)
  | fuel + 1, heap, taken =>
    if heap.size < 2 then (heap.getD 0 default, taken.reverse)
    else
      let (a, heap) := takeFirst heap
      let b := heap.getD 0 default
      let heap := heap.setIfInBounds 0 (a.joined b)
      joinAll fuel (sink heap heap.size 0) (b.symbol? ++ a.symbol? ++ taken)

/-- The symbols that occur, and as many others as make them two, each once. -/
def leaves (frequencies : List Nat) : List Tree :=
  let occurring := frequencies.zipIdx.filter fun p => p.1 ≠ 0
  let others : List Nat := match occurring with
    | [] => [0, 1]
    | [(_, s)] => if s < 2 then [s + 1] else [0]
    | _ => []
  occurring.map (fun p => .leaf p.2 p.1) ++ others.map fun s => .leaf s 1

/-- The greatest length below `n` that some word has. -/
def longestBelow (counts : Array Nat) : Nat → Nat
  | 0 => 0
  | n + 1 => if counts.getD n 0 = 0 then longestBelow counts n else n

/-- Shortens the words that are too long: for every two of them one that is shorter than `limit` is
lengthened. -/
def balance (limit : Nat) : Nat → Array Nat → Array Nat
  | 0, counts => counts
  | fuel + 1, counts =>
    let n := longestBelow counts limit
    let counts := counts.setIfInBounds n (counts.getD n 0 - 1)
    let counts := counts.setIfInBounds (n + 1) (counts.getD (n + 1) 0 + 2)
    balance limit fuel (counts.setIfInBounds limit (counts.getD limit 0 - 1))

/-- The lengths of words, longest first, when there are so many of each. -/
def allLengths (counts : Array Nat) : Nat → List Nat
  | 0 => []
  | n + 1 => List.replicate (counts.getD (n + 1) 0) (n + 1) ++ allLengths counts n

/-- Symbols with the lengths of their words. -/
def limited (limit : Nat) (tree : Tree) (order : List Nat) : List (Nat × Nat) :=
  let depths := tree.depths 0
  let excess := tree.deeper limit 0
  if excess = 0 then depths
  else
    let counts := ((List.range (limit + 1)).map fun n =>
      (depths.filter fun p => min p.2 limit == n).length).toArray
    order.zip (allLengths (balance limit ((excess + 1) / 2) counts) limit)

/-- Lengths by symbol, up to the last symbol that has a word. -/
def bySymbol (pairs : List (Nat × Nat)) : List Nat :=
  let size := pairs.foldl (fun n p => max n (p.1 + 1)) 0
  (pairs.foldl (fun lengths p => lengths.setIfInBounds p.1 p.2) (Array.replicate size 0)).toList

/-- The lengths of the words of a code in which frequent symbols have short words. -/
def wordLengths (limit : Nat) (frequencies : List Nat) : List Nat :=
  let heap := (leaves frequencies).toArray
  let (tree, order) := joinAll heap.size (settle heap (heap.size / 2)) []
  bySymbol (limited limit tree order)

end Gelf.Deflate
