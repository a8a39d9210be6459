import Gelf.Environment
import Gelf.Handler.Emit
import Gelf.Reporters

/-!
# Gelf.Handler.Construct

New handlers.

* `construct`: a handler from settings over a configuration. Classes named by a path are loaded, and
  a failure to do so is reported.
* `fromEnvironment`: the same over the settings that the environment makes.
-/

namespace Gelf

namespace Handler

/-- Loads what a path names. A path that leads nowhere is reported. -/
def load (c : Catalog) (kind : String) (path : Value) : Act (Option Importable) := do
  match c.resolve path with
  | .ok (.plain .null) => return none
  | .ok o => return some o
  | .error f =>
    if f.isA "ImportError" || f.isA "AttributeError" || f.isA "ValueError" then
      let text ← Act.words idle path.text
      report idle ⟨"Could not load GELF " ++ kind ++ " class " ++ text, some f, .general⟩
      return none
    else Act.fault f

/-- Calls what was loaded for a filter. The handler is in no one's hands yet, so that nothing which is
done meanwhile can reach it. -/
def makeFilter (o : Importable) : Act Instance := do
  let i ← Act.words idle (Catalog.call o)
  match i with
  | .sender =>
    Act.outward Outside.makeSender
    return i
  | .cleared =>
    changeContext Context.clear
    return i
  | .nothing => return i
  | .other _ _ _ => return i

/-- Makes a filter by calling what was loaded. A failure is reported and leaves none. -/
def addFilter (path : Value) (o : Importable) : Act Unit := do
  match ← Act.attempt (makeFilter o) with
  | .ok i => modifyHandler fun k => { k with filters := k.filters ++ [i] }
  | .error f =>
    if f.isA "Exception" then
      let text ← Act.words idle path.text
      report idle ⟨"Could not create GELF filter " ++ text, some f, .general⟩
    else Act.fault f

/-- No setting may be called like one of a handler's other arguments. -/
def checkNames (settings : Named Value) : Except Fault Unit :=
  match checkRepeated "copilot_gelf.handler.GelfHandler" ["error_reporter", "sender_factory"] settings with
  | .error f => .error f
  | .ok () =>
    match settings.find? fun n => ["self", "config"].contains n.1 with
    | some (name, _) => raise (.repeatedArgument "GelfHandler.__init__" name)
    | none => .ok ()

/-- The settings of a handler: those given by name, over a configuration or the defaults. -/
def layered (base : Option Config) (settings : Named Value) : Script Config :=
  match base with
  | none => Config.ofUpdates settings
  | some c => if settings.isEmpty then .done c else c.withUpdates settings

/-- What makes senders is loaded if a path to it is given. -/
def chooseFactory (c : Catalog) (path : Value) : Act Unit := do
  if path.truthy then
    let loaded ← load c "sender" path
    modifyHandler fun k => { k with factory := loaded }

/-- A filter is loaded and made if a path to it is given. -/
def chooseFilter (c : Catalog) (path : Value) : Act Unit := do
  if path.truthy then
    match ← load c "filter" path with
    | some o => addFilter path o
    | none => pure ()

def unopened (config : Config) (threshold : Value) (factory : Option Importable) : Handler :=
  ⟨config, threshold, [], factory, none, .uninitialized, false, false⟩

def construct (c : Catalog) (base : Option Config) (settings : Named Value)
    (factory : Option Importable) : Act Unit := do
  Act.ofExcept (checkNames settings)
  let config ← Act.words idle (layered base settings)
  let threshold ← Act.words idle ((← get).levels.check (config.value .level))
  modifyHandler fun _ => unopened config threshold factory
  match factory with
  | none => chooseFactory c (config.value .senderClass)
  | some _ => pure ()
  chooseFilter c (config.value .filterClass)

/-! ## From the environment -/

/-- A chosen reporter at work. A tracker fails where it is not installed. -/
def reporterOf (installed : Bool) : ReporterKind → Reporter
  | .console includeTraceback => .console includeTraceback
  | .silent => .silent
  | .tracker _ => .other fun _ r =>
    match (Tracker.report installed r).quiet with
    | .ok _ => none
    | .error f => some f

/-- Which reporter a handler gets: one that is given, else one by the name in the environment. -/
inductive ReporterSource where
  | given (kind : ReporterKind)
  | named (name : Option String)

def ReporterSource.kind (installed : Bool) : ReporterSource → Except Fault ReporterKind
  | .given kind => .ok kind
  | .named name => (makeReporter installed .null name []).map (·.1)

/-- Settings given by name count before those of the environment. -/
def fromEnvironment (c : Catalog) (env : Environment) (settings : Named Value)
    (source : ReporterSource) (installed : Bool) : Act ReporterKind := do
  Act.ofExcept (checkRepeated "copilot_gelf.factory.create_gelf_handler" ["environ"] settings)
  let config ← Act.words idle
    ((Config.ofEnvironment env).bind fun config => config.withUpdates settings)
  let kind ← Act.ofExcept (source.kind installed)
  modify fun w => { w with reporter := reporterOf installed kind }
  construct c (some config) [] none
  return kind

end Handler

end Gelf
