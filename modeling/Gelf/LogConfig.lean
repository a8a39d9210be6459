import Gelf.Config

/-!
# Gelf.LogConfig

Logging configurations: a handler for messages on the root logger, and a console beside it.

* `LogConfig.Call`: the arguments of a call, each by its name.
* `LogConfig.bind`: positional and named arguments as such a call.
* `LogConfig.make`: the configuration.
-/

namespace Gelf.LogConfig

structure Call where
  service : Value
  host : Value
  level : Value
  port : Value
  facility : Value
  console : Value
  settings : Named Value

def callee : String := "create_gelf_log_config"

def parameters : List String :=
  ["service_name", "graylog_host", "log_level", "graylog_port", "facility", "console"]

/-- The first named argument that was given by position already. -/
def repeatedName? (positional : List Value) (named : Named Value) : Option String :=
  (named.map (·.1)).find? fun n => (parameters.take positional.length).contains n

def bind (positional : List Value) (named : Named Value) : Except Fault Call :=
  let byName := Named.update ((parameters.zip positional : Named Value)) named
  match repeatedName? positional named with
  | some n => raise (.repeatedArgument callee n)
  | none =>
    if parameters.length < positional.length then
      raise (.tooManyPositional callee "from 2 to 6 positional arguments" positional.length)
    else match (parameters.take 2).filter fun p => !byName.has p with
      | [] =>
        let get (name : String) (usual : Value) : Value := (byName.get? name).getD usual
        .ok ⟨get "service_name" .null, get "graylog_host" .null, get "log_level" (.str "INFO"),
          get "graylog_port" .null, get "facility" .null, get "console" (.bool true),
          named.filter fun n => !parameters.contains n.1⟩
      | missing => raise (.missingArguments callee missing)

def handlerFactory : String := "copilot_gelf.handler.GelfHandler"

def lineFormat (service : String) : String :=
  "%(asctime)s " ++ service ++ " %(levelname)s %(name)s: %(message)s"

def gelfSection (c : Call) : Named Value :=
  let fixed : Named Value := [("()", .str handlerFactory), ("level", c.level),
    ("graylog_host", c.host), ("facility", c.facility.orElse c.service)]
  let port : Named Value := if c.port.isNull then [] else [("graylog_port", c.port)]
  Named.update (fixed ++ port) c.settings

def consoleSection : Named Value :=
  [("class", .str "logging.StreamHandler"), ("formatter", .str "plain"),
    ("stream", .str "ext://sys.stdout")]

def handlerSections (c : Call) : Named Value :=
  ("gelf", (gelfSection c).toValue) ::
    (if c.console.truthy then [("console", consoleSection.toValue)] else [])

def handlerNames (c : Call) : List Value :=
  (sortTexts ((handlerSections c).map (·.1))).map .str

def make (c : Call) : Script Value :=
  c.service.text.bind fun service =>
    .done (Named.toValue [("version", .int 1), ("disable_existing_loggers", .bool false),
      ("formatters", Named.toValue [("plain", Named.toValue [("format", .str (lineFormat service))])]),
      ("handlers", (handlerSections c).toValue),
      ("root", Named.toValue [("handlers", .list (handlerNames c)), ("level", c.level)])])

end Gelf.LogConfig
