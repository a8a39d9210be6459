import Gelf.Defect
import Gelf.Number.Decimal
import Gelf.Number.Read
import Gelf.Script
import Gelf.SyntaxPlace
import Gelf.Text.Quoted

/-!
# Gelf.Value.Text

The texts of values.

* `Value.quoted`: a value as it is written inside a list: text in quotes, numbers in full.
* `Value.text`: a value as text of its own. Text is itself and an object says its own, after
  its errand.
* `Fault.text`: what an exception says, without its class.
-/

namespace Gelf

open Gelf.Text Gelf.Number

/-- The first integer with too many digits to be written. -/
def intLimit : Nat := tenTo maxDigits

def intText (n : Int) : Except Fault String :=
  if n.natAbs < intLimit then .ok (toString n) else raise .intTooLong

def quotedText (s : String) : String := String.ofList (quoted s.toList)

/-- Items in round brackets; a single one is followed by a comma. -/
def tupleText : List String → String
  | [a] => "(" ++ a ++ ",)"
  | items => "(" ++ joined ", " items ++ ")"

/-- Is this third argument of a system error a number? Where writing would block it tells how much was
written. -/
def tellsWritten (kind : FaultKind) (v : Value) : Bool :=
  kind == .builtin "BlockingIOError" && match v with
    | .bool _ | .int _ | .float _ => true
    | .object o => o.index?.isSome || o.int?.isSome || o.float?.isSome
    | _ => false

/-- The arguments that an exception keeps: a system error gives up its file names. -/
def Fault.keptArgs (kind : FaultKind) (args : List Value) : List Value :=
  match args with
  | a :: b :: c :: rest =>
    if kind.isA "OSError" && rest.length ≤ 2 && !c.isNull && !tellsWritten kind c then [a, b] else args
  | _ => args

def callText (name : String) : List String → String
  | [a] => name ++ "(" ++ a ++ ")"
  | items => name ++ tupleText items

mutual

def Value.quoted : Value → Except Fault String
  | .null => .ok "None"
  | .bool b => .ok (if b then "True" else "False")
  | .int n => intText n
  | .float x => .ok (String.ofList (floatText x))
  | .str s => .ok (quotedText s)
  | .bytes b => .ok (String.ofList (quotedBytes b))
  | .list xs =>
    match quotedItems xs with
    | .ok items => .ok ("[" ++ joined ", " items ++ "]")
    | .error f => .error f
  | .tuple xs =>
    match quotedItems xs with
    | .ok items => .ok (tupleText items)
    | .error f => .error f
  | .dict es =>
    match quotedEntries es with
    | .ok items => .ok ("\x7b" ++ joined ", " items ++ "\x7d")
    | .error f => .error f
  | .object o => .ok o.quoted
  | .fault f => Fault.quoted f
  | .faultClass k =>
    .ok ("<class '" ++ (if k.home == "__main__" then "__main__." ++ k.name else k.qualified) ++ "'>")
  | .stack _ => .ok "<traceback object>"

def quotedItems : List Value → Except Fault (List String)
  | [] => .ok []
  | v :: rest =>
    match Value.quoted v with
    | .error f => .error f
    | .ok item =>
      match quotedItems rest with
      | .error f => .error f
      | .ok items => .ok (item :: items)

def quotedEntries : List (Value × Value) → Except Fault (List String)
  | [] => .ok []
  | e :: rest =>
    match quotedEntry e with
    | .error f => .error f
    | .ok item =>
      match quotedEntries rest with
      | .error f => .error f
      | .ok items => .ok (item :: items)

def quotedEntry : Value × Value → Except Fault String
  | (k, v) =>
    match Value.quoted k with
    | .error f => .error f
    | .ok key =>
      match Value.quoted v with
      | .error f => .error f
      | .ok value => .ok (key ++ ": " ++ value)

def Fault.quoted : Fault → Except Fault String
  | ⟨kind, args, _, _, _, _, _⟩ =>
    match quotedItems args with
    | .error f => .error f
    | .ok items => .ok (callText kind.name (items.take (Fault.keptArgs kind args).length))

end

/-- The first errand of an object, before it says its text or fails to. -/
def Object.say (o : Object) : Script String :=
  let answer : Script String :=
    match o.failure? with
    | some f => .fail f
    | none => .done o.text
  match o.errand? with
  | some e => .ask (.errand e) fun
    | .ok _ => answer
    | .error f => .fail f
  | none => answer

/-- A code unit range as the texts of encoding errors show it. -/
def numberedChar (c : Char) : String := String.ofList (numbered c.toNat)

/-- What an error of decoding says about the bytes from `start` to `stop`. -/
def decodeErrorText (codec : String) (object : List UInt8) (start stop : Int) (reason : String) :
    String :=
  match (if stop == start + 1 then object[start.toNat]? else none) with
  | some b =>
    "'" ++ codec ++ "' codec can't decode byte 0x" ++ String.ofList (hex 2 b.toNat) ++
      " in position " ++ toString start ++ ": " ++ reason
  | none =>
    "'" ++ codec ++ "' codec can't decode bytes in position " ++ toString start ++ "-" ++
      toString (stop - 1) ++ ": " ++ reason

/-- What an error of encoding says about the characters from `start` to `stop`. -/
def encodeErrorText (opening verb object : String) (start stop : Int) (reason : String) : String :=
  match (if stop == start + 1 then object.toList[start.toNat]? else none) with
  | some c =>
    opening ++ "can't " ++ verb ++ " character '" ++ numberedChar c ++ "' in position " ++
      toString start ++ ": " ++ reason
  | none =>
    opening ++ "can't " ++ verb ++ " characters in position " ++ toString start ++ "-" ++
      toString (stop - 1) ++ ": " ++ reason

/-- Text of a system error with a number: the number, what it means and the files. -/
def systemErrorText (number meaning : String) : List String → String
  | [] => "[Errno " ++ number ++ "] " ++ meaning
  | [file] => "[Errno " ++ number ++ "] " ++ meaning ++ ": " ++ file
  | file :: other :: _ =>
    "[Errno " ++ number ++ "] " ++ meaning ++ ": " ++ file ++ " -> " ++ other

/-- The file names among the arguments of a system error, after its number and its meaning. -/
def systemErrorFiles (kind : FaultKind) : List Value → List Value
  | [] => []
  | file :: rest =>
    if file.isNull || tellsWritten kind file then []
    else match rest with
      | [_, other] => if other.isNull then [file] else [file, other]
      | _ => [file]

/-- A position in what was encoded or decoded, which an object may offer too. -/
def Value.offeredInt? : Value → Option Int
  | .object o =>
    match o.index? with
    | some v => v.asInt?
    | none => none
  | v => v.asInt?

/-- What an error of encoding or decoding says, if its arguments are all there. -/
def unicodeErrorText? (kind : FaultKind) (args : List Value) : Option String :=
  match kind, args with
  | .builtin "UnicodeDecodeError", [.str codec, .bytes object, start, stop, .str reason] =>
    match start.offeredInt?, stop.offeredInt? with
    | some start, some stop => some (decodeErrorText codec object start stop reason)
    | _, _ => none
  | .builtin "UnicodeEncodeError", [.str codec, .str object, start, stop, .str reason] =>
    match start.offeredInt?, stop.offeredInt? with
    | some start, some stop =>
      some (encodeErrorText ("'" ++ codec ++ "' codec ") "encode" object start stop reason)
    | _, _ => none
  | .builtin "UnicodeTranslateError", [.str object, start, stop, .str reason] =>
    match start.offeredInt?, stop.offeredInt? with
    | some start, some stop => some (encodeErrorText "" "translate" object start stop reason)
    | _, _ => none
  | _, _ => none

/-- Several arguments in round brackets. -/
def argumentsText (args : List Value) : Except Fault String :=
  match quotedItems args with
  | .ok items => .ok (tupleText items)
  | .error f => .error f

mutual

def Value.text : Value → Script String
  | .str s => .done s
  | .object o => o.say
  | .fault f => Fault.text f
  | v => .ofExcept v.quoted

def Fault.text : Fault → Script String
  | ⟨kind, args, _, _, _, _, _⟩ =>
    match args with
    | [] => .done (if kind.isA "SyntaxError" then "None" else "")
    | [a] => if kind == .builtin "KeyError" then .ofExcept a.quoted else Value.text a
    | a :: b :: more =>
      if kind.isA "SyntaxError" then
        (Value.text a).bind fun message =>
          .done (message ++ (SyntaxPlace.ofArgs (a :: b :: more)).inBrackets)
      else if kind.isA "OSError" && more.length ≤ 3 then
        (Value.text a).bind fun number =>
          (Value.text b).bind fun meaning =>
            (Script.ofExcept (quotedItems (systemErrorFiles kind more))).bind fun files =>
              .done (systemErrorText number meaning files)
      else
        match unicodeErrorText? kind (a :: b :: more) with
        | some text => .done text
        | none => .ofExcept (argumentsText (a :: b :: more))

end

end Gelf
