import Gelf.Value

/-!
# Gelf.Report

What is told to an error reporter: a description, the fault behind it and a code.
-/

namespace Gelf

/-- The kind of work that failed. -/
inductive ErrorCode where
  | general
  | writing
  | flushing
  | closing
  | opening
  | formatting
  deriving DecidableEq, Repr

namespace ErrorCode

def name : ErrorCode → String
  | .general => "GENERIC_FAILURE"
  | .writing => "WRITE_FAILURE"
  | .flushing => "FLUSH_FAILURE"
  | .closing => "CLOSE_FAILURE"
  | .opening => "OPEN_FAILURE"
  | .formatting => "FORMAT_FAILURE"

def all : List ErrorCode := [.general, .writing, .flushing, .closing, .opening, .formatting]

def ofName? (s : String) : Option ErrorCode := all.find? (·.name == s)

theorem ofName?_name (c : ErrorCode) : ofName? c.name = some c := by
  cases c <;> decide

end ErrorCode

structure Report where
  message : String
  error : Option Fault
  code : ErrorCode

end Gelf
