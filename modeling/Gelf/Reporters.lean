import Gelf.Config
import Gelf.Report
import Gelf.Traceback

/-!
# Gelf.Reporters

Error reporters to choose from.

* `ReporterKind`: the console, memory, or an error tracker; `makeReporter` and `makeReporterBy`
  choose by name.
* `Tracker`: the error tracker's reporter; `Tracker.report` makes one `TrackerCall`.
* `reportsWith`, `hasReport`: reports kept in memory, by code and by a text in them.
-/

namespace Gelf

/-- A call that reached the error tracker: positional arguments as texts, others by name. -/
structure TrackerCall where
  function : String
  positional : List String
  keywords : Named Value

structure Tracker where
  dsn : Value
  environment : Value
  initialized : Bool

inductive ReporterKind where
  | console (includeTraceback : Value)
  | silent
  | tracker (t : Tracker)

def ReporterKind.className : ReporterKind → String
  | .console _ => "ConsoleErrorReporter"
  | .silent => "SilentErrorReporter"
  | .tracker _ => "SentryErrorReporter"

/-! ## Memory -/

def reportsWith (code : Option ErrorCode) (reports : List Report) : List Report :=
  match code with
  | none => reports
  | some c => reports.filter fun r => r.code = c

/-- Was a report made whose message has this text in it, whatever the case? -/
def hasReport (text : String) (code : Option ErrorCode) (reports : List Report) : Bool :=
  (reportsWith code reports).any fun r =>
    Text.containsText (Text.lower text.toList) (Text.lower r.message.toList)

/-! ## The error tracker -/

/-- A tracker's reporter. With an address it is started at once, if it is installed. -/
def Tracker.make (installed : Bool) (dsn environment : Value) :
    Except Fault (Tracker × List TrackerCall) :=
  if dsn.truthy then
    if installed then
      .ok (⟨dsn, environment, true⟩,
        [⟨"init", [], [("dsn", dsn), ("environment", environment)]⟩])
    else .error { Defect.trackerMissing.toFault with
      cause := some Defect.trackerHalted.toFault, suppress := true }
  else .ok (⟨dsn, environment, false⟩, [])

/-- A fault is sent as it is, anything else as a message. -/
def Tracker.report (installed : Bool) (r : Report) : Script TrackerCall :=
  if installed then
    let tags : Value := .dict [(.str "gelf.error_code", .str r.code.name),
      (.str "gelf.message", .str r.message)]
    match r.error with
    | some f => f.text.bind fun s => .done ⟨"capture_exception", [s], [("tags", tags)]⟩
    | none => .done ⟨"capture_message", [r.message], [("level", .str "error"), ("tags", tags)]⟩
  else .fail Defect.trackerHalted.toFault

/-! ## Choice -/

def makeConsole (arguments : Named Value) : Except Fault ReporterKind :=
  (checkArguments "ConsoleErrorReporter.__init__" ["self"] ["stream", "include_traceback"]
    arguments).map fun _ => .console (arguments.getOr "include_traceback" (.bool true))

def makeSilent (arguments : Named Value) : Except Fault ReporterKind :=
  (checkArguments "SilentErrorReporter.__init__" ["self"] [] arguments).map fun _ => .silent

def makeTracker (installed : Bool) (arguments : Named Value) :
    Except Fault (Tracker × List TrackerCall) :=
  match checkArguments "SentryErrorReporter.__init__" ["self"] ["dsn", "environment"] arguments with
  | .error f => .error f
  | .ok () =>
    Tracker.make installed (arguments.getOr "dsn" .null) (arguments.getOr "environment" .null)

/-- The chosen name in lower case: as given, else the environment's, else the console's. -/
def chosenName (given : Value) (environment : Option String) : Except Fault String :=
  match given.orElse (textOr environment) with
  | .str s => .ok (lowerText s)
  | .bytes b =>
    .ok (String.ofList (Text.quotedBytes (b.map fun x => if 65 ≤ x && x ≤ 90 then x + 32 else x)))
  | v => raise (.noAttribute v.className "lower")
where
  textOr (environment : Option String) : Value :=
    match environment with
    | some s => if s == "" then .str "console" else .str s
    | none => .str "console"

def makeReporter (installed : Bool) (given : Value) (environment : Option String)
    (arguments : Named Value) : Except Fault (ReporterKind × List TrackerCall) :=
  match chosenName given environment with
  | .error f => .error f
  | .ok "console" => (makeConsole arguments).map fun k => (k, [])
  | .ok "silent" => (makeSilent arguments).map fun k => (k, [])
  | .ok "sentry" => (makeTracker installed arguments).map fun (t, calls) => (.tracker t, calls)
  | .ok name => raise (.unknownReporter name)

/-- The reporter of a call whose first argument chooses it; that may also be given by name. -/
def makeReporterBy (installed : Bool) (first : Option Value) (environment : Option String)
    (arguments : Named Value) : Except Fault (ReporterKind × List TrackerCall) :=
  let others := arguments.erase "reporter_type"
  match first, arguments.get? "reporter_type" with
  | some _, some _ => raise (.repeatedArgument "create_error_reporter" "reporter_type")
  | some v, none | none, some v => makeReporter installed v environment others
  | none, none => makeReporter installed .null environment others

end Gelf
