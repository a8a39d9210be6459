import Gelf.Arguments
import Gelf.Level

/-!
# Gelf.Config

What a handler is set up with.

* `Setting`: the names of the settings. `Config`: a value for each.
* `parseFields`: static fields, from a mapping or from `key=value` texts.
* `Config.ofSettings`: the settings as given, the rest by default.
* `Config.withUpdates`: settings laid over others; texts are read as what the setting needs, and
  an empty value leaves the setting as it was.
-/

namespace Gelf

open Gelf.Text

inductive Setting where
  | host
  | port
  | originHost
  | facility
  | extractStacktrace
  | level
  | contextKey
  | staticFields
  | instanceName
  | filterClass
  | senderClass
  | timeout
  deriving DecidableEq, Repr

namespace Setting

def name : Setting → String
  | .host => "graylog_host"
  | .port => "graylog_port"
  | .originHost => "origin_host"
  | .facility => "facility"
  | .extractStacktrace => "extract_stacktrace"
  | .level => "level"
  | .contextKey => "mdc_tag"
  | .staticFields => "additional_fields"
  | .instanceName => "instance_name"
  | .filterClass => "filter_class"
  | .senderClass => "sender_class"
  | .timeout => "timeout"

def all : List Setting :=
  [.host, .port, .originHost, .facility, .extractStacktrace, .level, .contextKey, .staticFields,
    .instanceName, .filterClass, .senderClass, .timeout]

def ofName? (s : String) : Option Setting := all.find? (·.name == s)

theorem mem_all (s : Setting) : s ∈ all := by
  cases s <;> decide

theorem ofName?_name (s : Setting) : ofName? s.name = some s := by
  cases s <;> decide

end Setting

structure Config where
  value : Setting → Value

def defaultPort : Int := 12201

def defaultLevel : String := "INFO"

def defaultContextKey : String := "remoteAddr"

def defaultTimeout : Float := 5.0

def defaultValue : Setting → Value
  | .port => .int defaultPort
  | .extractStacktrace => .bool false
  | .level => .str defaultLevel
  | .contextKey => .str defaultContextKey
  | .staticFields => .dict []
  | .timeout => .float defaultTimeout
  | _ => .null

def Config.standard : Config := ⟨defaultValue⟩

def Config.set (c : Config) (s : Setting) (v : Value) : Config :=
  ⟨fun t => if t = s then v else c.value t⟩

/-! ## Static fields -/

/-- Takes up one `key=value` text; any other text is left out. -/
def addFieldText (fields : Named String) (entry : String) : Named String :=
  match Text.splitFirst '=' entry.toList with
  | some (k, v) => fields.put (String.ofList k) (String.ofList v)
  | none => fields

def parseFieldList (fields : Named String) : List Value → Script (Named String)
  | [] => .done fields
  | v :: rest => v.text.bind fun entry => parseFieldList (addFieldText fields entry) rest

def parseFieldMap (fields : Named String) : List (Value × Value) → Script (Named String)
  | [] => .done fields
  | (k, v) :: rest =>
    k.text.bind fun key => v.text.bind fun value => parseFieldMap (fields.put key value) rest

def parseFields : Value → Script (Named String)
  | .null => .done []
  | .dict es => parseFieldMap [] es
  | .str s => parseFieldList [] [.str s]
  | .list xs => parseFieldList [] xs
  | .tuple xs => parseFieldList [] xs
  | .bytes b => parseFieldList [] (b.map fun x => .int x.toNat)
  | v => .fail (Defect.notIterable v.className).toFault

def fieldsValue (fields : Named String) : Value :=
  .dict (fields.map fun n => (.str n.1, .str n.2))

/-! ## Words for yes and no -/

def trueWords : List String := ["true", "1", "yes", "on"]

def falseWords : List String := ["false", "0", "no", "off"]

def lowerText (s : String) : String := String.ofList (lower s.toList)

/-! ## Layers -/

/-- A value as its setting needs it. -/
def normalize : Setting → Value → Script Value
  | .staticFields, v => (parseFields v).bind fun fields => .done (fieldsValue fields)
  | .port, v => (Script.ofExcept v.toInt).bind fun n => .done (.int n)
  | .timeout, v => (Script.ofExcept v.toFloat).bind fun x => .done (.float x)
  | .level, .str s => .done (.str (LevelNames.strippedUpper s))
  | .extractStacktrace, .str s => .done (.bool (trueWords.contains (lowerText s)))
  | _, v => .done v

/-- The order in which given values are read: first those that can be refused. -/
def readingOrder : List Setting :=
  [.staticFields, .port, .timeout, .level, .extractStacktrace, .host, .originHost, .facility,
    .contextKey, .instanceName, .filterClass, .senderClass]

/-- The value given for a setting; an empty one counts as not given. -/
def given (updates : Named Value) (s : Setting) : Option Value :=
  match updates.get? s.name with
  | some .null => none
  | v => v

def applyUpdates (updates : Named Value) (c : Config) : List Setting → Script Config
  | [] => .done c
  | s :: rest =>
    match given updates s with
    | none => applyUpdates updates c rest
    | some v => (normalize s v).bind fun w => applyUpdates updates (c.set s w) rest

def lessText (s t : String) : Bool :=
  Value.lessList (fun c d => c.toNat < d.toNat) s.toList t.toList

/-- Texts in ascending order, each once. -/
def insertText (s : String) : List String → List String
  | [] => [s]
  | t :: rest =>
    if s == t then t :: rest else if lessText s t then s :: t :: rest else t :: insertText s rest

def sortTexts (texts : List String) : List String := texts.foldr insertText []

def textListing (texts : List String) : String :=
  "[" ++ Text.joined ", " (texts.map quotedText) ++ "]"

def unknownNames (updates : Named Value) : List String :=
  sortTexts ((updates.map (·.1)).filter fun n => (Setting.ofName? n).isNone)

def Config.withUpdates (c : Config) (updates : Named Value) : Script Config :=
  if updates.has "self" then
    .fail (Defect.repeatedArgument "GelfConfig.with_updates" "self").toFault
  else match unknownNames updates with
    | [] => applyUpdates updates c readingOrder
    | unknown => .fail (Defect.unknownSettings (textListing unknown)
        (textListing (sortTexts (Setting.all.map Setting.name)))).toFault

def Config.ofUpdates (updates : Named Value) : Script Config :=
  if updates.has "cls" then
    .fail (Defect.repeatedArgument "GelfConfig.from_settings" "cls").toFault
  else Config.standard.withUpdates updates

/-- Settings taken as they are given. -/
def Config.ofSettings (settings : Named Value) : Except Fault Config :=
  (checkArguments "GelfConfig.__init__" ["self"] (Setting.all.map Setting.name) settings).map
    fun _ => ⟨fun s => settings.getOr s.name (defaultValue s)⟩

end Gelf
