import Gelf.Record

/-!
# Gelf.Catalog

Objects that can be loaded by a dotted path such as `package.module.Name`.

* `FilterRule`: what a filter says to a record.
* `Importable`: such an object, with what calling it without arguments does and what comes of it.
* `ModuleEntry`: a module. It is run when it is loaded, and that can end in any fault.
* `Catalog`: the modules there are. `Catalog.resolve`: the object at a path.
-/

namespace Gelf

/-- Whether a filter accepts a record, which it may change on the way. It touches nothing else. -/
structure FilterRule where
  judge : Record → Except Fault (Bool × Record)

namespace FilterRule

def fail (f : Fault) : FilterRule := ⟨fun _ => .error f⟩

/-- What comes of an object that was never meant to be one. -/
def notAFilter (className : String) : FilterRule := fail (Defect.notCallable className).toFault

end FilterRule

/-- An object made by calling something that was loaded. -/
inductive Instance where
  | nothing
  /-- Nothing, which is also what clearing the diagnostic context gives. -/
  | cleared
  | sender
  | other (className : String) (rule : FilterRule) (closable : Bool)

def Instance.className : Instance → String
  | .nothing => "NoneType"
  | .cleared => "NoneType"
  | .sender => "Sender"
  | .other c _ _ => c

inductive Importable where
  /-- A class or a function, with its own name. What it does when it is called can reach the handler. -/
  | callable (name : String) (call : Script Instance)
  /-- Anything else. Calling it is a mistake. -/
  | plain (v : Value)
  /-- Something of which only the class is known; its name may be a dotted one. -/
  | objectOf (className : String)

/-- `fault?` is what running the module ends in, if it does not run through. `lookUp` is what the
module itself says to a name that is not among its members. -/
structure ModuleEntry where
  name : String
  isPackage : Bool
  members : Named Importable
  fault? : Option Fault := none
  lookUp : String → Except Fault (Option Importable) := fun _ => .ok none

structure Catalog where
  modules : List ModuleEntry

namespace Catalog

def find? (c : Catalog) (name : String) : Option ModuleEntry := c.modules.find? (·.name == name)

/-- The modules that lead to a module, outermost first. -/
def parents (name : String) : List String := (Text.stems '.' name.toList).map String.ofList

/-- Finds a module and runs it. All but the outermost have to lie in a package. -/
def loadOne (c : Catalog) (parent : Option ModuleEntry) (name : String) :
    Except Fault ModuleEntry :=
  match parent.filter (!·.isPackage), c.find? name with
  | some p, _ => raise (.notAPackage (quotedText name) (quotedText p.name))
  | none, none => raise (.noModule (quotedText name))
  | none, some m =>
    match m.fault? with
    | some f => .error f
    | none => .ok m

def loadAll (c : Catalog) (parent : Option ModuleEntry) : List String → Except Fault (Option ModuleEntry)
  | [] => .ok parent
  | name :: rest =>
    match c.loadOne parent name with
    | .ok m => loadAll c (some m) rest
    | .error f => .error f

def loadModule (c : Catalog) (name : String) : Except Fault ModuleEntry :=
  if name.toList.head? = some '.' then raise (.relativePath (quotedText name))
  else match c.loadAll none (parents name) with
    | .error f => .error f
    | .ok (some m) => .ok m
    | .ok none => raise (.noModule (quotedText name))

/-- A module's own submodules count as its members, if they run through. -/
def member? (c : Catalog) (m : ModuleEntry) (name : String) :
    Except Fault (Option Importable) :=
  match m.members.get? name with
  | some o => .ok (some o)
  | none =>
    match (c.find? (m.name ++ "." ++ name)).filter (·.fault?.isNone) with
    | some _ => .ok (some (.objectOf "module"))
    | none => m.lookUp name

/-- The module that a path leads to, and the name in it. -/
def halves? (path : String) : Option (String × String) :=
  match Text.splitLast '.' path.toList with
  | none | some ([], _) => none
  | some (before, name) => some (String.ofList before, String.ofList name)

def resolve (c : Catalog) (path : Value) : Except Fault Importable :=
  match path with
  | .str s =>
    match halves? s with
    | none => raise (.notDotted (quotedText s))
    | some (home, name) =>
      match c.loadModule home with
      | .error f => .error f
      | .ok m =>
        match c.member? m name with
        | .ok (some o) => .ok o
        | .ok none => raise (.noModuleMember home name)
        | .error f => .error f
  | .bytes _ => raise (.bytesWanted "str")
  | v => raise (.noAttribute v.className "rpartition")

def call : Importable → Script Instance
  | .callable _ call => call
  | .plain v => .ofExcept (raise (.notCallable v.className))
  | .objectOf c => .ofExcept (raise (.notCallable c))

end Catalog

end Gelf
