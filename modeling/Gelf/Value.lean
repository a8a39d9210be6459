/-!
# Gelf.Value

What a log record, a message or a setting may hold.

* `Value`: plain data, objects of a caller's own class, and exceptions.
* `Object`: an object of a caller's class: its text, its quoted form and the numbers it can be
  turned into. Asking for its text may run an `Errand` against the handler first.
* `Errand`: closes the handler or logs something; `LogCall` is what a logging call says.
* `Fault`: an exception, with what it was raised from and where.
* `Entries`: the members of a dictionary, in the order of first insertion.
-/

namespace Gelf

structure Frame where
  file : String
  line : Int
  function : String
  deriving DecidableEq, Repr

inductive FaultKind where
  /-- A class that is always there. -/
  | builtin (name : String)
  /-- The class of a failed lookup of a name in the network. -/
  | addressLookup
  /-- A class of a program's own, directly below `Exception`, in the module `home`. -/
  | own (home name : String)
  deriving DecidableEq, Repr

namespace FaultKind

def name : FaultKind → String
  | .builtin name => name
  | .addressLookup => "gaierror"
  | .own _ name => name

def home : FaultKind → String
  | .builtin _ => "builtins"
  | .addressLookup => "socket"
  | .own home _ => home

end FaultKind

mutual

inductive Value where
  | null
  | bool (b : Bool)
  | int (n : Int)
  | float (x : Float)
  | str (s : String)
  | bytes (b : List UInt8)
  | list (xs : List Value)
  | tuple (xs : List Value)
  | dict (entries : List (Value × Value))
  | object (o : Object)
  | fault (f : Fault)
  | faultClass (k : FaultKind)
  | stack (frames : List Frame)

structure Object where
  className : String
  text : String
  quoted : String
  index? : Option Value
  int? : Option Value
  float? : Option Value
  failure? : Option Fault
  errand? : Option Errand

/-- What an object does to the handler while its text is being asked for. -/
inductive Errand where
  | close
  | log (call : LogCall)

structure LogCall where
  name : Value
  level : Value
  file : String
  line : Int
  function : Value
  message : Value
  args : Value
  excInfo : Value
  stack : Value
  created : Value
  extra : List (String × Value)

structure Fault where
  kind : FaultKind
  args : List Value
  cause : Option Fault
  context : Option Fault
  suppress : Bool
  notes : List String
  frames : List Frame

end

instance : Inhabited Value := ⟨.null⟩

abbrev Entries := List (Value × Value)

namespace Value

def className : Value → String
  | .null => "NoneType"
  | .bool _ => "bool"
  | .int _ => "int"
  | .float _ => "float"
  | .str _ => "str"
  | .bytes _ => "bytes"
  | .list _ => "list"
  | .tuple _ => "tuple"
  | .dict _ => "dict"
  | .object o => o.className
  | .fault f => f.kind.name
  | .faultClass _ => "type"
  | .stack _ => "traceback"

/-- Zero, nothing and what is empty count as false. -/
def truthy : Value → Bool
  | .null => false
  | .bool b => b
  | .int n => n != 0
  | .float x => x != 0.0
  | .str s => s != ""
  | .bytes b => !b.isEmpty
  | .list xs => !xs.isEmpty
  | .tuple xs => !xs.isEmpty
  | .dict es => !es.isEmpty
  | .object _ | .fault _ | .faultClass _ | .stack _ => true

def isNull : Value → Bool
  | .null => true
  | _ => false

/-- A truth value counts as the integer 0 or 1. -/
def asInt? : Value → Option Int
  | .bool b => some (if b then 1 else 0)
  | .int n => some n
  | _ => none

def isStr : Value → Bool
  | .str _ => true
  | _ => false

/-- The items of a value that has items in a row: a text has its characters, a dictionary its keys. -/
def items : Value → List Value
  | .str s => s.toList.map fun c => .str (String.singleton c)
  | .bytes b => b.map fun x => .int x.toNat
  | .list xs => xs
  | .tuple xs => xs
  | .dict es => es.map (·.1)
  | _ => []

def orElse (v other : Value) : Value := if v.truthy then v else other

end Value

end Gelf
