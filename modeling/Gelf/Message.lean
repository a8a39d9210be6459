import Gelf.Json
import Gelf.Level

/-!
# Gelf.Message

GELF messages.

* `Message`: texts, time in milliseconds, severity, host, facility and additional fields.
* `Message.addField`: one more field; an empty value adds none.
* `Message.document`: the members of the JSON object. A field's name gets a low line in front, and
  `id` a second one, since collectors keep `_id` for themselves.
* `Message.encode`: the JSON text.
-/

namespace Gelf

structure Message where
  short : Value
  full : Value
  milliseconds : Value
  level : Value
  host : Value
  facility : Value
  fields : Value

namespace Message

def version : String := "1.1"

/-- Sets an item of a list; a key below zero counts from the end. -/
def setItem (xs : List Value) (key v : Value) : Except Fault (List Value) :=
  if key.offers .index then
    match key.position with
    | .error f => .error f
    | .ok n =>
      let k := if n < 0 then n + xs.length else n
      if 0 ≤ k && k < xs.length then .ok (xs.set k.toNat v) else raise .assignmentIndex
  else raise (.indexNotInt "list" key.className)

def putField (fields key v : Value) : Except Fault Value :=
  match fields with
  | .dict es =>
    match key.checkKey with
    | .ok () => .ok (.dict (Entries.put es key v))
    | .error f => .error f
  | .list xs => (setItem xs key v).map .list
  | w => raise (.noItemAssignment w.className)

def addField (m : Message) (key value : Value) : Script Message :=
  match value with
  | .null => .done m
  | _ =>
    value.text.bind fun s =>
      (Script.ofExcept (putField m.fields key (.str s))).bind fun fields =>
        .done { m with fields := fields }

def seconds (milliseconds : Value) : Except Fault Value :=
  match milliseconds with
  | .float x => .ok (.float (x / 1000.0))
  | v =>
    match v.asInt? with
    | some n => (Value.intToFloat n).map fun x => .float (x / 1000.0)
    | none => raise (.unsupportedOperands "/" v.className "float")

def memberName (key : Value) : Script String :=
  match key with
  | .str "id" => .done "__id"
  | _ => key.text.bind fun s => .done ("_" ++ s)

def addMembers (members : Named Value) : List (Value × Value) → Script (Named Value)
  | [] => .done members
  | (k, v) :: rest => (memberName k).bind fun name => addMembers (members.put name v) rest

def optionalMember (name : String) : Value → Named Value
  | .null => []
  | v => [(name, v)]

def fieldEntries : Value → Except Fault Entries
  | .dict es => .ok es
  | v => raise (.noAttribute v.className "items")

def document (m : Message) : Script (Named Value) :=
  (Script.ofExcept (seconds m.milliseconds)).bind fun time =>
    (Script.ofExcept (fieldEntries m.fields)).bind fun fields =>
      addMembers ([("version", .str version), ("short_message", m.short),
        ("full_message", m.full), ("timestamp", time), ("level", m.level)] ++
        optionalMember "host" m.host ++ optionalMember "facility" m.facility) fields

def encode (m : Message) : Script String :=
  m.document.bind fun members => Json.write members.toValue

end Message

end Gelf
