import Gelf.Level
import Gelf.Printf.Precheck

/-!
# Gelf.Record

Log records: attributes by name, as the logging call filled them in.

* `Record.make`: the record of a logging call; a single mapping among the arguments takes their place.
* `Record.get`: an attribute, if the record has it.
* `Record.message`: the message with its arguments filled in.
* `Record.copied`: a copy, unless an attribute stands in the way of making one.
-/

namespace Gelf

structure Record where
  attributes : Named Value

def isFilledMapping : Value → Bool
  | .dict es => !es.isEmpty
  | _ => false

/-- A single argument that is a mapping with members takes the place of the arguments. -/
def unwrapArgs (args : Value) : Except Fault Value :=
  if args.truthy then
    match Printf.lengthOf args with
    | .error f => .error f
    | .ok n =>
      if n == 1 then
        match args.itemAt 0 with
        | .error f => .error f
        | .ok v => .ok (if isFilledMapping v then v else args)
      else .ok args
  else .ok args

namespace Record

def get (r : Record) (name : String) : Except Fault Value :=
  match r.attributes.get? name with
  | some v => .ok v
  | none => raise (.noAttribute "LogRecord" name)

def set (r : Record) (name : String) (v : Value) : Record := ⟨r.attributes.put name v⟩

/-- A file's name without its ending; a dot at the front begins no ending. -/
def moduleName (fileName : String) : String :=
  match Text.splitLast '.' fileName.toList with
  | some (name, _) => if name.all (· == '.') then fileName else String.ofList name
  | none => fileName

/-- The attributes of a record before the caller's own are added. -/
def plain (call : LogCall) (args levelName : Value) : Named Value :=
  let fileName := baseName call.file
  [("name", call.name), ("msg", call.message), ("args", args), ("levelname", levelName),
    ("levelno", call.level), ("pathname", .str call.file), ("filename", .str fileName),
    ("module", .str (moduleName fileName)), ("exc_info", call.excInfo), ("exc_text", .null),
    ("stack_info", call.stack), ("lineno", .int call.line), ("funcName", call.function),
    ("created", call.created), ("msecs", .int 0), ("relativeCreated", .int 0), ("thread", .int 0),
    ("threadName", .str "MainThread"), ("processName", .str "MainProcess"), ("process", .int 0)]

/-- The members of a dictionary that texts name. -/
def named (es : Entries) : Named Value :=
  es.filterMap fun
    | (.str name, v) => some (name, v)
    | _ => none

/-- Gives a record one more attribute. The class of a record cannot be any value, and the collection of
its attributes can only be another dictionary, which then takes the place of all of them. -/
def assign (attributes : Named Value) (name : String) (v : Value) : Except Fault (Named Value) :=
  match name, v with
  | "__class__", v => raise (.notAClass v.className)
  | "__weakref__", _ => raise (.notWritable "__weakref__" "LogRecord")
  | "__dict__", .dict es => .ok (named es)
  | "__dict__", v => raise (.notADictionary v.className)
  | name, v => .ok (attributes.put name v)

def assignAll (attributes : Named Value) : List (String × Value) → Except Fault (Named Value)
  | [] => .ok attributes
  | (name, v) :: rest =>
    match assign attributes name v with
    | .ok attributes => assignAll attributes rest
    | .error f => .error f

def make (levels : LevelNames) (call : LogCall) : Script Record :=
  (Script.ofExcept (unwrapArgs call.args)).bind fun args =>
    (levels.nameOf call.level).bind fun levelName =>
      (Script.ofExcept (assignAll (plain call args levelName) call.extra)).bind fun attributes =>
        .done ⟨attributes⟩

/-- An attribute called `getMessage` stands in the way, since it would be called instead. -/
def message (r : Record) : Script String :=
  match r.attributes.get? "getMessage" with
  | some v => .ofExcept (raise (.notCallable v.className))
  | none =>
    (Script.ofExcept (r.get "msg")).bind fun message =>
      message.text.bind fun text =>
        (Script.ofExcept (r.get "args")).bind fun args =>
          if args.truthy then Printf.format text args else .done text

/-- An operation on records, whose name an attribute may have taken. -/
def checkOperation (r : Record) (name : String) : Except Fault Unit :=
  match r.attributes.get? name with
  | some v => raise (.notCallable v.className)
  | none => .ok ()

/-- The old way to take a record apart, for which there must not seem to be any slots. -/
def checkOldCopy (r : Record) : Except Fault Unit :=
  match r.attributes.get? "__reduce__" with
  | some v =>
    if v.truthy then raise (.notCallable v.className) else raise (.notCopyable "logging.LogRecord")
  | none =>
    if ((r.attributes.get? "__slots__").getD .null).truthy then raise .slotsWithoutState
    else r.checkOperation "__getstate__"

/-- A record is copied by taking it apart and putting it together again. -/
def copied (r : Record) : Except Fault Record :=
  (match r.attributes.get? "__reduce_ex__" with
    | some .null => r.checkOldCopy
    | some v => raise (.notCallable v.className)
    | none => r.checkOperation "__getstate__").map fun _ => r

end Record

end Gelf
