import Gelf.Value.Text

/-!
# Gelf.Value.Number

Values as numbers.

* `Value.offers`: can values of this class be turned into a number in this way?
* `Value.index`, `Value.toInt`, `Value.toFloat`: the conversions, texts included.
* `Value.asReal`: a number as a float; texts are refused.
* `Value.isBelow` and its like: a value beside an integer.
-/

namespace Gelf

open Gelf.Number

def Object.method? (o : Object) : NumberMethod → Option Value
  | .index => o.index?
  | .int => o.int?
  | .float => o.float?

namespace Value

def offers : Value → NumberMethod → Bool
  | .bool _, _ => true
  | .int _, _ => true
  | .float _, .index => false
  | .float _, _ => true
  | .object o, m => (o.method? m).isSome
  | _, _ => false

/-- The result of one of an object's methods, which has to be an integer. -/
def intResult (o : Object) (m : NumberMethod) (v : Value) : Except Fault Int :=
  match v.asInt? with
  | some n => .ok n
  | none => raise (.methodResult o.className m v.className)

def index : Value → Except Fault Int
  | .bool b => .ok (if b then 1 else 0)
  | .int n => .ok n
  | .object o =>
    match o.index? with
    | some v => intResult o .index v
    | none => raise (.notAnIndex o.className)
  | v => raise (.notAnIndex v.className)

def position (v : Value) : Except Fault Int :=
  match v.index with
  | .error f => .error f
  | .ok n => if fitsWord n then .ok n else raise (.positionTooLarge v.className)

def truncated (x : Float) : Except Fault Int :=
  match magnitude x with
  | .notANumber => raise .nanToInt
  | .infinite => raise .infiniteToInt
  | .finite m e =>
    let n : Int := wholePart m e
    .ok (if isNegative x then -n else n)

/-- A text of at most two hundred characters, as a complaint about a number quotes it. -/
def clipped (s : String) : String := String.ofList (s.toList.take 200)

def readIntText (quoted : String) (result : Except IntError Int) : Except Fault Int :=
  match result with
  | .ok n => .ok n
  | .error (.tooLong digits) => raise (.intTextTooLong digits)
  | .error .invalid => raise (.notAnInt (clipped quoted))

def bytesAsText (b : List UInt8) : List Char := b.map fun x => Char.ofNat x.toNat

def toInt : Value → Except Fault Int
  | .bool b => .ok (if b then 1 else 0)
  | .int n => .ok n
  | .float x => truncated x
  | .str s => readIntText (quotedText s) (readInt s.toList)
  | .bytes b => readIntText (String.ofList (Text.quotedBytes b)) (readPlainInt (bytesAsText b))
  | .object o =>
    match o.int?, o.index? with
    | some v, _ => intResult o .int v
    | none, some v => intResult o .index v
    | none, none => raise (.notAnIntSource o.className)
  | v => raise (.notAnIntSource v.className)

def intToFloat (n : Int) : Except Fault Float :=
  match ofInt? n with
  | some x => .ok x
  | none => raise .intTooLargeForFloat

/-- The result of an object's own conversion, which has to be a float. -/
def floatResult (o : Object) : Value → Except Fault Float
  | .float x => .ok x
  | v => raise (.methodResult o.className .float v.className)

/-- An object as a float, by its own conversion or by its index. -/
def objectToFloat (o : Object) (otherwise : Defect) : Except Fault Float :=
  match o.float?, o.index? with
  | some v, _ => floatResult o v
  | none, some v =>
    match intResult o .index v with
    | .ok n => intToFloat n
    | .error f => .error f
  | none, none => raise otherwise

def toFloat : Value → Except Fault Float
  | .bool b => .ok (if b then 1.0 else 0.0)
  | .int n => intToFloat n
  | .float x => .ok x
  | .str s =>
    match readFloat s.toList with
    | some x => .ok x
    | none => raise (.notAFloat (quotedText s))
  | .bytes b =>
    match readPlainFloat (bytesAsText b) with
    | some x => .ok x
    | none => raise (.notAFloat (String.ofList (Text.quotedBytes b)))
  | .object o => objectToFloat o (.notAFloatSource o.className)
  | v => raise (.notAFloatSource v.className)

def asReal : Value → Except Fault Float
  | .bool b => .ok (if b then 1.0 else 0.0)
  | .int n => intToFloat n
  | .float x => .ok x
  | .object o => objectToFloat o (.mustBeReal o.className)
  | v => raise (.mustBeReal v.className)

/-- Texts by their code points, byte strings by their bytes. -/
def lessList {α : Type} [DecidableEq α] (lt : α → α → Bool) : List α → List α → Bool
  | _, [] => false
  | [], _ :: _ => true
  | a :: as, b :: bs => if a = b then lessList lt as bs else lt a b

/-- Is the value less than the number, greater, or the same? No number is any of them to a NaN,
and what is no number has no order. -/
def compareInt (v : Value) (n : Int) : Option (Option Ordering) :=
  match v.asInt? with
  | some m => some (some (compare m n))
  | none =>
    match v with
    | .float x =>
      some (if isNaN x then none
        else if floatLtInt x n then some .lt
        else if intLtFloat n x then some .gt
        else some .eq)
    | _ => none

/-- Is the value less than a level, which is an integer or a truth value? -/
def isBelow (v level : Value) : Except Fault Bool :=
  match v.compareInt (level.asInt?.getD 0) with
  | some o => .ok (o == some .lt)
  | none => raise (.notComparable "<" v.className level.className)

def atLeastInt (v : Value) (n : Int) : Except Fault Bool :=
  match v.compareInt n with
  | some o => .ok (o == some .gt || o == some .eq)
  | none => raise (.notComparable ">=" v.className "int")

def atMostInt (v : Value) (n : Int) : Except Fault Bool :=
  match v.compareInt n with
  | some o => .ok (o == some .lt || o == some .eq)
  | none => raise (.notComparable "<=" v.className "int")

end Value

end Gelf
