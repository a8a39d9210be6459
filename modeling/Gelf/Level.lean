import Gelf.Printf.Format
import Gelf.Text.Blank
import Gelf.Text.Case

/-!
# Gelf.Level

Logging levels and the severities that messages carry.

* `LevelNames`: the registry of level names, in both directions.
* `LevelNames.nameOf`: the name of a number, or the number of a name.
* `LevelNames.check`: a level as a filter threshold.
* `LevelNames.severity`: a level on the syslog scale, 0 being most severe.
-/

namespace Gelf

open Gelf.Text

inductive Severity where
  | emergency
  | alert
  | critical
  | error
  | warning
  | notice
  | informational
  | debug
  deriving DecidableEq, Repr

def Severity.number : Severity → Nat
  | .emergency => 0
  | .alert => 1
  | .critical => 2
  | .error => 3
  | .warning => 4
  | .notice => 5
  | .informational => 6
  | .debug => 7

/-- The tiers that are told by their number. -/
def Severity.ofTier? (n : Int) : Option Severity :=
  if n == 40 then some .error
  else if n == 30 then some .warning
  else if n == 20 then some .informational
  else none

/-- All else is told by its name; unknown names are the least severe. -/
def Severity.ofName (name : String) : Severity :=
  match name with
  | "CRITICAL" | "FATAL" => .critical
  | "ERROR" => .error
  | "WARN" => .warning
  | "INFO" => .informational
  | _ => .debug

structure LevelNames where
  names : Entries
  numbers : Entries

namespace LevelNames

def standard : LevelNames where
  names := [(.int 50, .str "CRITICAL"), (.int 40, .str "ERROR"), (.int 30, .str "WARNING"),
    (.int 20, .str "INFO"), (.int 10, .str "DEBUG"), (.int 0, .str "NOTSET")]
  numbers := [(.str "CRITICAL", .int 50), (.str "FATAL", .int 50), (.str "ERROR", .int 40),
    (.str "WARN", .int 30), (.str "WARNING", .int 30), (.str "INFO", .int 20),
    (.str "DEBUG", .int 10), (.str "NOTSET", .int 0)]

/-- Links a number and a name both ways. Older links of either stay in the other direction. -/
def add (r : LevelNames) (number name : Value) : LevelNames :=
  ⟨r.names.put number name, r.numbers.put name number⟩

def present : Option Value → Option Value
  | some .null => none
  | v => v

/-- The name of a number, else the number of a name, else a name made up for it. An empty link
counts as none. -/
def nameOf (r : LevelNames) (level : Value) : Script Value :=
  match level.checkKey with
  | .error f => .fail f
  | .ok () =>
    match present (Entries.get? r.names level), present (Entries.get? r.numbers level) with
    | some v, _ => .done v
    | none, some v => .done v
    | none, none => (Printf.format "Level %s" level).bind fun s => .done (.str s)

/-- A level as a threshold: a number, or a name that is registered. -/
def check (r : LevelNames) (level : Value) : Script Value :=
  match level with
  | .bool _ | .int _ => .done level
  | .str s =>
    match Entries.get? r.numbers level with
    | some n => .done n
    | none => .fail (Defect.unknownLevel (quotedText s)).toFault
  | _ =>
    level.text.bind fun _ =>
      (Script.ofExcept level.quoted).bind fun q => .fail (Defect.badLevel q).toFault

def upperText (s : String) : String := String.ofList (upper s.toList)

def strippedUpper (s : String) : String := String.ofList (upper (strip s.toList))

/-- The severity of a level with a number, if it has one, and a name. -/
def severityOf (number : Option Int) (name : Value) : Severity :=
  match number.bind Severity.ofTier? with
  | some s => s
  | none =>
    match name with
    | .str s => .ofName (upperText s)
    | _ => .debug

def severity (r : LevelNames) (level : Value) : Script Severity :=
  match level with
  | .bool _ => .done .debug
  | .int n => (r.nameOf level).bind fun name => .done (severityOf (some n) name)
  | _ =>
    level.text.bind fun s =>
      let name : Value := .str (strippedUpper s)
      (r.nameOf name).bind fun registered => .done (severityOf registered.asInt? name)

end LevelNames

theorem Severity.number_lt (s : Severity) : s.number < 8 := by
  cases s <;> decide

end Gelf
