import Gelf.Deflate.Code

/-!
# Gelf.Deflate.Block

Blocks of tokens as bits.

A block is written in the fixed code, in a code of its own, which is told first, or as plain bytes,
whichever is shortest.

* `Codes`: the codes of a block, one for bytes and lengths and one for distances.
* `blockBits`: a block. `takeBlocks`: the tokens of all blocks.
-/

namespace Gelf.Deflate

/-- Bits as bytes, the lowest bit of each first. -/
def pack : List Bool → Bytes
  | [] => []
  | a :: b :: c :: d :: e :: f :: g :: h :: rest =>
    byteOf [a, b, c, d, e, f, g, h] :: pack rest
  | few => [byteOf few]
where
  byteOf (bits : List Bool) : UInt8 :=
    UInt8.ofNat (bits.foldr (fun b n => 2 * n + b.toNat) 0)

def unpack (bytes : Bytes) : List Bool := bytes.flatMap fun b => bitsOf 8 b.toNat

/-! ## Codes -/

/-- Lengths of the words of a block's codes. -/
structure Codes where
  symbols : List Nat
  distances : List Nat

/-- The codes that need not be told. -/
def Codes.fixed : Codes where
  symbols := List.replicate 144 8 ++ List.replicate 112 9 ++ List.replicate 24 7 ++ List.replicate 8 8
  distances := List.replicate 30 5

def tally (size : Nat) (symbols : List Nat) : List Nat :=
  (symbols.foldl (fun counts s => counts.modify s (· + 1)) (Array.replicate size 0)).toList

def Token.Parts.symbol : Token.Parts → Nat
  | .byte s => s
  | .copy n _ _ _ => n

def Token.Parts.distance? : Token.Parts → Option Nat
  | .byte _ => none
  | .copy _ _ d _ => some d

/-- How often each byte and length occurs in a block, its end included. -/
def symbolTally (parts : List Token.Parts) : List Nat :=
  tally 286 (endOfBlock :: parts.map Token.Parts.symbol)

def distanceTally (parts : List Token.Parts) : List Nat :=
  tally 30 (parts.filterMap Token.Parts.distance?)

/-- The codes that suit a block best. -/
def Codes.own (parts : List Token.Parts) : Codes where
  symbols := wordLengths maxWord (symbolTally parts)
  distances := wordLengths maxWord (distanceTally parts)

def Token.Parts.bits (symbols distances : Code) : Token.Parts → List Bool
  | .byte s => symbols.word s
  | .copy n more d far =>
    symbols.word n ++ more.toBits ++ distances.word d ++ far.toBits

def Codes.write (codes : Codes) (parts : List Token.Parts) : List Bool :=
  let symbols := Code.words codes.symbols
  let distances := Code.words codes.distances
  (parts.flatMap fun p => p.bits symbols distances) ++ symbols.word endOfBlock

/-! ## Telling the codes -/

/-- A step in telling the lengths of words: a length, or how often it is told again. -/
structure Run where
  symbol : Nat
  extra : Extra

def Run.single (n : Nat) : Run := ⟨n, ⟨0, 0⟩⟩

/-- Tells `count` times more the length before. -/
def Run.again (count : Nat) : Run := ⟨16, ⟨2, count - 3⟩⟩

/-- Tells `count` zeros. -/
def Run.zeros (count : Nat) : Run :=
  if count ≤ 10 then ⟨17, ⟨3, count - 3⟩⟩ else ⟨18, ⟨7, count - 11⟩⟩

/-- Tells a length `count` times, when `before` is the one told last. -/
def Run.repeated (before : Option Nat) (n count : Nat) : List Run :=
  if n = 0 then if count < 3 then List.replicate count (.single 0) else [.zeros count]
  else if before = some n then if count < 3 then List.replicate count (.single n) else [.again count]
  else if count < 4 then List.replicate count (.single n)
  else [.single n, .again (count - 1)]

/-- How often at most a length is told at once. -/
def Run.most (before : Option Nat) (n : Nat) : Nat :=
  if n = 0 then 138 else if before = some n then 6 else 7

def Run.ofLengths (before : Option Nat) : List Nat → List Run
  | [] => []
  | n :: rest =>
    let more := ((rest.take (Run.most before n - 1)).takeWhile (· == n)).length
    Run.repeated before n (more + 1) ++ Run.ofLengths (some n) (rest.drop more)
termination_by lengths => lengths.length
decreasing_by
  simp only [List.length_drop, List.length_cons]
  omega

/-- The order in which the lengths of the words for runs are told. -/
def runOrder : List Nat := [16, 17, 18, 0, 8, 7, 9, 6, 10, 5, 11, 4, 12, 3, 13, 2, 14, 1, 15]

/-- How many of them are told at least. -/
def leastRunLengths : Nat := 4

def maxRunWord : Nat := 7

/-- The codes of a block, before its tokens. -/
def Codes.tell (codes : Codes) : List Bool :=
  let runs := Run.ofLengths none codes.symbols ++ Run.ofLengths none codes.distances
  let lengths := wordLengths maxRunWord (tally 19 (runs.map Run.symbol))
  let words := Code.words lengths
  let inOrder := runOrder.map fun s => lengths.getD s 0
  let told := max leastRunLengths ((inOrder.reverse.dropWhile (· == 0)).length)
  bitsOf 5 (codes.symbols.length - 257) ++ bitsOf 5 (codes.distances.length - 1) ++
    bitsOf 4 (told - leastRunLengths) ++ (inOrder.take told).flatMap (bitsOf 3) ++
    runs.flatMap fun r => words.word r.symbol ++ r.extra.toBits

/-! ## Writing -/

inductive Form where
  | plain
  | fixed
  | own
  deriving DecidableEq

def Form.bits : Form → List Bool
  | .plain => [false, false]
  | .fixed => [true, false]
  | .own => [false, true]

/-- How many bytes a block takes that has these bits after its form. -/
def bytesFor (bits : List Bool) : Nat := (bits.length + 10) / 8

/-- Plain bytes, which begin with a new byte: their number, twice, and themselves. -/
def plainBits (written : Nat) (bytes : Bytes) : List Bool :=
  List.replicate ((8 - (written + 3) % 8) % 8) false ++ bitsOf 16 bytes.length ++
    bitsOf 16 (65535 - bytes.length) ++ unpack bytes

/-- A block of tokens that stand for `bytes`, after so many bits that are written already. -/
def blockBits (isLast : Bool) (written : Nat) (bytes : Bytes) (tokens : List Token) : List Bool :=
  let parts := tokens.map Token.parts
  let fixed := Codes.fixed.write parts
  let codes := Codes.own parts
  let own := codes.tell ++ codes.write parts
  let (form, body) : Form × List Bool :=
    if bytes.length + 4 ≤ min (bytesFor fixed) (bytesFor own) then (.plain, plainBits written bytes)
    else if bytesFor fixed ≤ bytesFor own then (.fixed, fixed)
    else (.own, own)
  isLast :: (form.bits ++ body)

def maxTokens : Nat := 16383

/-- Blocks of tokens that stand for `payload`, after so many bits that are written already. -/
def blocksFrom : Nat → Nat → Bytes → List Token → List (List Bool)
  | 0, _, _, _ => []
  | fuel + 1, written, payload, tokens =>
    let now := tokens.take maxTokens
    let later := tokens.drop maxTokens
    let size := (now.map Token.size).sum
    let block := blockBits later.isEmpty written (payload.take size) now
    if later.isEmpty then [block]
    else block :: blocksFrom fuel (written + block.length) (payload.drop size) later

def blocks (payload : Bytes) (tokens : List Token) : List (List Bool) :=
  blocksFrom (tokens.length + 1) 0 payload tokens

/-! ## Reading -/

/-- The next of the lengths that are told, repeated as a run says. -/
def Run.lengths (before : Nat) (symbol : Nat) (bits : List Bool) : List Nat × List Bool :=
  if symbol < 16 then ([symbol], bits)
  else if symbol = 16 then
    let (n, bits) := takeBits 2 bits
    (List.replicate (n + 3) before, bits)
  else if symbol = 17 then
    let (n, bits) := takeBits 3 bits
    (List.replicate (n + 3) 0, bits)
  else
    let (n, bits) := takeBits 7 bits
    (List.replicate (n + 11) 0, bits)

/-- Reads at least `wanted` lengths after those told already, which come last first. -/
def takeLengths (words : Reader) (wanted : Nat) : Nat → List Nat → List Bool →
    Option (List Nat × List Bool)
  | 0, _, _ => none
  | fuel + 1, told, bits =>
    if wanted ≤ told.length then some (told.reverse, bits)
    else
      match words.read bits with
      | none => none
      | some (symbol, bits) =>
        let (more, bits) := Run.lengths (told.headD 0) symbol bits
        takeLengths words wanted fuel (more ++ told) bits

def takeMany (n width : Nat) (bits : List Bool) : List Nat × List Bool :=
  match n with
  | 0 => ([], bits)
  | n + 1 =>
    let (v, bits) := takeBits width bits
    let (more, bits) := takeMany n width bits
    (v :: more, bits)

/-- Lengths by symbol, from lengths in the order in which they are told. -/
def runLengths (told : List Nat) : List Nat :=
  (List.range 19).map fun s => ((runOrder.zip told).lookup s).getD 0

def takeCodes (bits : List Bool) : Option (Codes × List Bool) :=
  let (symbols, bits) := takeBits 5 bits
  let (distances, bits) := takeBits 5 bits
  let (told, bits) := takeBits 4 bits
  let (inOrder, bits) := takeMany (told + leastRunLengths) 3 bits
  let wanted := symbols + 257 + (distances + 1)
  match takeLengths (.ofLengths (runLengths inOrder)) wanted (wanted + 1) [] bits with
  | none => none
  | some (lengths, bits) => some (⟨lengths.take (symbols + 257), lengths.drop (symbols + 257)⟩, bits)

/-- The copy whose length has this symbol. -/
def takeCopy (distances : Reader) (symbol : Nat) (bits : List Bool) : Option (Token × List Bool) :=
  match lengthTable[symbol - endOfBlock - 1]? with
  | none => none
  | some (least, width) =>
    let (more, bits) := takeBits width bits
    match distances.read bits with
    | none => none
    | some (place, bits) =>
      match distanceTable[place]? with
      | none => none
      | some (near, width) =>
        let (far, bits) := takeBits width bits
        some (.copy (least + more) (near + far), bits)

/-- Reads tokens up to the end of their block and adds them to `out`. -/
def takeTokens (symbols distances : Reader) : Nat → Array Token → List Bool →
    Option (Array Token × List Bool)
  | 0, _, _ => none
  | fuel + 1, out, bits =>
    match symbols.read bits with
    | none => none
    | some (s, bits) =>
      if s < endOfBlock then takeTokens symbols distances fuel (out.push (.byte (UInt8.ofNat s))) bits
      else if s = endOfBlock then some (out, bits)
      else
        match takeCopy distances s bits with
        | none => none
        | some (t, bits) => takeTokens symbols distances fuel (out.push t) bits

/-- Reads plain bytes, which begin with a new byte. -/
def takePlain (out : Array Token) (bits : List Bool) : Option (Array Token × List Bool) :=
  let bits := bits.drop (bits.length % 8)
  let (size, bits) := takeBits 16 bits
  let (check, bits) := takeBits 16 bits
  if size + check = 65535 then
    let body := pack (bits.take (8 * size))
    if body.length = size then
      some (body.foldl (fun out b => out.push (.byte b)) out, bits.drop (8 * size))
    else none
  else none

def takeBody (out : Array Token) : List Bool → Option (Array Token × List Bool)
  | false :: false :: bits => takePlain out bits
  | true :: false :: bits =>
    takeTokens (.ofLengths Codes.fixed.symbols) (.ofLengths Codes.fixed.distances) (bits.length + 1)
      out bits
  | false :: true :: bits =>
    match takeCodes bits with
    | none => none
    | some (codes, bits) =>
      takeTokens (.ofLengths codes.symbols) (.ofLengths codes.distances) (bits.length + 1) out bits
  | _ => none

/-- The tokens of all blocks, up to the one that says it is the last. -/
def takeBlocks : Nat → Array Token → List Bool → Option (Array Token)
  | 0, _, _ => none
  | _ + 1, _, [] => none
  | fuel + 1, out, isLast :: bits =>
    match takeBody out bits with
    | none => none
    | some (out, bits) => if isLast then some out else takeBlocks fuel out bits

end Gelf.Deflate
