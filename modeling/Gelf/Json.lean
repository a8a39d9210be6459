import Gelf.Value.Entries

/-!
# Gelf.Json

JSON text in ASCII, without blanks between its parts.

* `Json.string`: a text in quotes; whatever is not printable ASCII is escaped.
* `Json.memberName`: the name that a key gives a member.
* `Json.write`: a value. What JSON has no form for is written as the text of the value.
-/

namespace Gelf.Json

open Gelf.Text Gelf.Number

def unit (n : Nat) : List Char := '\\' :: 'u' :: hex 4 n

/-- A character outside the basic plane takes two code units. -/
def units (n : Nat) : List Char :=
  if n < 0x10000 then unit n
  else unit (0xd800 + (n - 0x10000) / 0x400) ++ unit (0xdc00 + (n - 0x10000) % 0x400)

def escaped (c : Char) : List Char :=
  if c == '"' || c == '\\' then ['\\', c]
  else if c == '\n' then ['\\', 'n']
  else if c == '\r' then ['\\', 'r']
  else if c == '\t' then ['\\', 't']
  else if c.toNat == 8 then ['\\', 'b']
  else if c.toNat == 12 then ['\\', 'f']
  else if 0x20 ≤ c.toNat && c.toNat < 0x7f then [c]
  else units c.toNat

def string (s : String) : String :=
  String.ofList ('"' :: s.toList.flatMap escaped ++ ['"'])

def number (x : Float) : String :=
  match magnitude x with
  | .notANumber => "NaN"
  | .infinite => if isNegative x then "-Infinity" else "Infinity"
  | .finite _ _ => String.ofList (floatText x)

def memberName : Value → Except Fault String
  | .str s => .ok s
  | .float x => .ok (number x)
  | .bool b => .ok (if b then "true" else "false")
  | .null => .ok "null"
  | .int n => intText n
  | v => raise (.badMemberName v.className)

mutual

def write : Value → Script String
  | .null => .done "null"
  | .bool b => .done (if b then "true" else "false")
  | .int n => .ofExcept (intText n)
  | .float x => .done (number x)
  | .str s => .done (string s)
  | .list xs => (writeItems xs).bind fun items => .done ("[" ++ joined "," items ++ "]")
  | .tuple xs => (writeItems xs).bind fun items => .done ("[" ++ joined "," items ++ "]")
  | .dict es => (writeMembers es).bind fun ms => .done ("\x7b" ++ joined "," ms ++ "\x7d")
  | v => v.text.bind fun s => .done (string s)

def writeItems : List Value → Script (List String)
  | [] => .done []
  | v :: rest => (write v).bind fun item => (writeItems rest).bind fun items => .done (item :: items)

def writeMembers : List (Value × Value) → Script (List String)
  | [] => .done []
  | e :: rest =>
    (writeMember e).bind fun m => (writeMembers rest).bind fun ms => .done (m :: ms)

def writeMember : Value × Value → Script String
  | (k, v) =>
    (Script.ofExcept (memberName k)).bind fun name =>
      (write v).bind fun text => .done (string name ++ ":" ++ text)

end

end Gelf.Json
