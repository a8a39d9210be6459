import Gelf.Config

/-!
# Gelf.Environment

Settings from environment variables. A variable that is unset, blank or not readable leaves the
default, so that no mistake in one stops a handler from being built.

* `Environment.text`: a variable that is not blank.
* `Environment.flag`, `Environment.int`, `Environment.float`: the same, read as what it should be.
* `Environment.indexed`: the values of `NAME_0`, `NAME_1` and so on.
* `Environment.read`: a variable in one of these ways.
* `Config.ofEnvironment`: all settings.
-/

namespace Gelf

open Gelf.Text

structure Environment where
  settings : Named Value
  mark : String

namespace Environment

def standardMark : String := "GELF_"

/-- What a variable says. -/
def lookUp (env : Environment) (name : String) : Script (Option String) :=
  match env.settings.get? (env.mark ++ name) with
  | none | some .null => .done none
  | some v => v.text.bind fun s => .done (some s)

/-- What a variable says, unless that is blank. -/
def text (env : Environment) (name : String) : Script (Option String) :=
  (env.lookUp name).bind fun
    | some s => .done (if isBlankText s.toList then none else some s)
    | none => .done none

def strippedLower (s : String) : String := String.ofList (lower (strip s.toList))

def readFlag (s : String) : Option Bool :=
  if trueWords.contains (strippedLower s) then some true
  else if falseWords.contains (strippedLower s) then some false
  else none

def flag (env : Environment) (name : String) (default : Value) : Script Value :=
  (env.text name).bind fun s =>
    match s.bind readFlag with
    | some b => .done (.bool b)
    | none => .done default

def int (env : Environment) (name : String) (default : Value) : Script Value :=
  (env.text name).bind fun
    | none => .done default
    | some s =>
      match (Value.str s).toInt with
      | .ok n => .done (.int n)
      | .error _ => .done default

def float (env : Environment) (name : String) (default : Value) : Script Value :=
  (env.text name).bind fun
    | none => .done default
    | some s =>
      match (Value.str s).toFloat with
      | .ok x => .done (.float x)
      | .error _ => .done default

/-- The values from index `k` on, at most `count` of them, up to the first unset one. -/
def indexedFrom (env : Environment) (name : String) : Nat → Nat → Script (List String)
  | 0, _ => .done []
  | count + 1, k =>
    (env.lookUp (name ++ "_" ++ toString k)).bind fun
      | none => .done []
      | some s => (indexedFrom env name count (k + 1)).bind fun rest => .done (s :: rest)

/-- There can be no more values than there are variables. -/
def indexed (env : Environment) (name : String) : Script (List String) :=
  env.indexedFrom name env.settings.length 0

inductive Way where
  | text
  | flag
  | int
  | float
  | indexed

/-- Reads a variable. A number needs a default, and a row of values has none. -/
def read (env : Environment) (name : String) (default : Option Value) : Way → Script Value
  | .text => (env.text name).bind fun s => .done (s.elim (default.getD .null) .str)
  | .flag => env.flag name (default.getD (.bool false))
  | .int =>
    match default with
    | some d => env.int name d
    | none => .fail (Defect.missingArguments "EnvSettings.get_int" ["default"]).toFault
  | .float =>
    match default with
    | some d => env.float name d
    | none => .fail (Defect.missingArguments "EnvSettings.get_float" ["default"]).toFault
  | .indexed =>
    match default with
    | some _ => .fail (Defect.tooManyPositional "EnvSettings.iter_indexed"
        "2 positional arguments" 3).toFault
    | none => (env.indexed name).bind fun ss => .done (.list (ss.map .str))

end Environment

def textOrNull (s : Option String) : Value := s.elim .null .str

def Config.ofEnvironment (env : Environment) : Script Config := do
  let host ← env.text "HOST"
  let port ← env.int "PORT" (.int defaultPort)
  let originHost ← env.text "ORIGIN_HOST"
  let facility ← env.text "FACILITY"
  let extractStacktrace ← env.flag "EXTRACT_STACKTRACE" (.bool false)
  let level ← env.text "LEVEL"
  let contextKey ← env.text "MDC_TAG"
  let entries ← env.indexed "ADDITIONAL_FIELD"
  let instanceName ← env.text "INSTANCE_NAME"
  let filterClass ← env.text "FILTER_CLASS"
  let senderClass ← env.text "SENDER_CLASS"
  let timeout ← env.float "TIMEOUT" (.float defaultTimeout)
  return ⟨fun
    | .host => textOrNull host
    | .port => port
    | .originHost => textOrNull originHost
    | .facility => textOrNull facility
    | .extractStacktrace => extractStacktrace
    | .level => .str (LevelNames.strippedUpper (level.getD defaultLevel))
    | .contextKey => .str (contextKey.getD defaultContextKey)
    | .staticFields => fieldsValue (entries.foldl addFieldText [])
    | .instanceName => textOrNull instanceName
    | .filterClass => textOrNull filterClass
    | .senderClass => textOrNull senderClass
    | .timeout => timeout⟩

end Gelf
