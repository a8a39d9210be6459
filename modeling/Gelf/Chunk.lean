import Gelf.Defect
import Gelf.Number.Binary

/-!
# Gelf.Chunk

Payloads cut into datagrams. A chunk is two magic bytes, the eight bytes of the message's id, its
place and the number of chunks, then a part of the payload.

* `chunkCount`: how many chunks a payload needs.
* `split`: the chunks of a payload; more than `maxChunks` are refused.
* `Chunk.ofBytes?`, `reassemble`: what a collector does with the chunks that arrive.
-/

namespace Gelf

abbrev Bytes := List UInt8

def magic : Bytes := [0x1e, 0x0f]

def headerSize : Nat := 12

def maxChunks : Nat := 128

structure Chunk where
  id : Bytes
  place : UInt8
  count : UInt8
  body : Bytes
  deriving DecidableEq

def Chunk.toBytes (c : Chunk) : Bytes := magic ++ c.id ++ [c.place, c.count] ++ c.body

/-- Chunks of `size` bytes that a payload of `length` bytes needs, at least one. The quotient is that
of floats, so it is exact only for lengths that a float can tell apart. -/
def chunkCount (length : Nat) (size : Int) : Nat :=
  if size ≤ 0 then 1 else max 1 (Number.ceilQuotient length size.toNat)

/-- The part of a payload that chunk `place` carries. A size below zero counts from the end. -/
def chunkBody (payload : Bytes) (size : Int) (place : Nat) : Bytes :=
  if size < 0 then payload.take (payload.length - size.natAbs)
  else (payload.drop (place * size.toNat)).take size.toNat

def chunks (payload : Bytes) (size : Int) (id : Bytes) : Except Fault (List Chunk) :=
  if id.length ≠ 8 then raise .badMessageId
  else if size = 0 then raise .divisionByZero
  else
    let count := chunkCount payload.length size
    if maxChunks < count then raise (.tooManyChunks count)
    else .ok ((List.range count).map fun place =>
      ⟨id, UInt8.ofNat place, UInt8.ofNat count, chunkBody payload size place⟩)

def split (payload : Bytes) (size : Int) (id : Bytes) : Except Fault (List Bytes) :=
  (chunks payload size id).map fun cs => cs.map Chunk.toBytes

/-! ## The collector's side -/

def Chunk.ofBytes? (b : Bytes) : Option Chunk :=
  match b with
  | m :: n :: rest =>
    if [m, n] = magic then
      match rest.drop 8 with
      | place :: count :: body => some ⟨rest.take 8, place, count, body⟩
      | _ => none
    else none
  | _ => none

def insertChunk (c : Chunk) : List Chunk → List Chunk
  | [] => [c]
  | d :: rest => if c.place ≤ d.place then c :: d :: rest else d :: insertChunk c rest

def inOrder : List Chunk → List Chunk
  | [] => []
  | c :: rest => insertChunk c (inOrder rest)

/-- The payload that the chunks with this id carry, whatever order they came in. -/
def reassemble (id : Bytes) (arrived : List Bytes) : Bytes :=
  (inOrder ((arrived.filterMap Chunk.ofBytes?).filter (·.id = id))).flatMap (·.body)

theorem Chunk.ofBytes?_toBytes (c : Chunk) (h : c.id.length = 8) :
    Chunk.ofBytes? c.toBytes = some c := by
  obtain ⟨id, place, count, body⟩ := c
  simp only at h
  simp [Chunk.toBytes, Chunk.ofBytes?, magic, h]

end Gelf
