import Gelf.Deflate.Block
import Gelf.Deflate.Search

/-!
# Gelf.Deflate

Compressed payloads: zlib streams.

* `compress`: the stream of a payload. `expand?`: the payload of a stream.
-/

namespace Gelf.Deflate

/-- The checksum of a payload: two sums modulo 65521. -/
def adler (payload : Bytes) : Nat :=
  let (a, b) := payload.foldl (fun (a, b) x =>
    let a := (a + x.toNat) % 65521
    (a, (b + a) % 65521)) (1, 0)
  b * 65536 + a

def bigEndian (v : Nat) : Bytes :=
  [UInt8.ofNat (v / 16777216), UInt8.ofNat (v / 65536), UInt8.ofNat (v / 256), UInt8.ofNat v]

def header : Bytes := [0x78, 0x9c]

def compress (payload : Bytes) : Bytes :=
  let tokens := tokenize payload
  header ++ pack (blocks payload tokens).flatten ++ bigEndian (adler payload)

/-- The payload of a stream, its checksum left unread. -/
def expand? (stream : Bytes) : Option Bytes :=
  if stream.take 2 = header then
    let bits := unpack (stream.drop 2)
    (takeBlocks (bits.length + 1) #[] bits).map fun tokens => spell tokens.toList
  else none

end Gelf.Deflate
