import Gelf.Config
import Gelf.Context
import Gelf.Message
import Gelf.Record.Inherited
import Gelf.Rendered

/-!
# Gelf.Message.OfRecord

Messages from rendered records.

* `Message.ofRecord`: the message of a record under a configuration and a diagnostic context. Fields
  are added in a fixed order, static ones last, and a later field of the same name wins.
* `diagnosticValue`: what the diagnostic context, or the record itself, says under a key.
-/

namespace Gelf

def loggerField : String := "logger_name"

def functionField : String := "function_name"

def instanceField : String := "instance"

/-- A time in seconds, a thousandfold. Texts and lists are repeated instead. -/
def thousandfold : Value → Except Fault Value
  | .float x => .ok (.float (x * 1000.0))
  | .str s => .ok (.str (String.join (List.replicate 1000 s)))
  | .bytes b => .ok (.bytes (List.replicate 1000 b).flatten)
  | .list xs => .ok (.list (List.replicate 1000 xs).flatten)
  | .tuple xs => .ok (.tuple (List.replicate 1000 xs).flatten)
  | v =>
    match v.asInt? with
    | some n => .ok (.int (n * 1000))
    | none => raise (.unsupportedOperands "*" v.className "int")

/-- The record's time in whole milliseconds. -/
def wholeMilliseconds (created : Value) : Except Fault Int :=
  match thousandfold created with
  | .ok v => v.toInt
  | .error f => .error f

/-- The record's own value under a key, else the context's. -/
def diagnosticValue (context : Context) (r : Record) (key : Value) : Script (Option String) :=
  match key with
  | .str k =>
    (r.saying k).bind fun
      | some s => .done (some s)
      | none => .done (context.get? k)
  | v => .fail (Defect.attributeNameNotText v.className).toFault

def originHost (config : Config) : Script Value :=
  match config.value .originHost with
  | .null =>
    (Script.request .localHost).bind fun
      | some s => .done (.str s)
      | none => .done .null
  | v => .done v

def addTag (context : Context) (r : Record) (tag : Value) (m : Message) : Script Message :=
  if tag.truthy then
    (diagnosticValue context r tag).bind fun
      | some s => m.addField tag (.str s)
      | none => .done m
  else .done m

def addFields (m : Message) : List (Value × Value) → Script Message
  | [] => .done m
  | (k, v) :: rest => (m.addField k v).bind fun m => addFields m rest

def recordFields (r : Record) : Except Fault Entries := do
  let name ← r.get "name"
  let function ← r.get "funcName"
  return [(.str loggerField, name.orElse (.str "")), (.str functionField, function.orElse (.str ""))]

def timeAndSeverity (levels : LevelNames) (r : Record) : Script (Int × Severity) := do
  let time ← Script.ofExcept ((r.get "created").bind wholeMilliseconds)
  let level ← Script.ofExcept (r.get "levelno")
  let severity ← levels.severity level
  return (time, severity)

def Message.ofRecord (levels : LevelNames) (config : Config) (context : Context) (r : Record)
    (rendered : Rendered) : Script Message := do
  let (time, severity) ← timeAndSeverity levels r
  let own ← Script.ofExcept (recordFields r)
  let host ← originHost config
  let m : Message := ⟨.str rendered.short, .str rendered.full, .int time, .int severity.number, host,
    config.value .facility, .dict own⟩
  let m ← m.addField (.str instanceField) (config.value .instanceName)
  let m ← addTag context r (config.value .contextKey) m
  let fields ← Script.ofExcept (Message.fieldEntries (config.value .staticFields))
  addFields m fields

end Gelf
