-- SUMMARY: The levels of log messages, and their names.
import SipDialogs.Fault
import SipDialogs.Text.Decimal

/-! # Log levels

A level has a name and a number: the more a process tells, the greater it is. -/

namespace SipDialogs

inductive LogLevel where
  | error
  | warn
  | info
  | debug
  | trace
  deriving DecidableEq, Repr, Inhabited

namespace LogLevel

def all : List LogLevel := [error, warn, info, debug, trace]

def name : LogLevel → String
  | error => "error"
  | warn => "warn"
  | info => "info"
  | debug => "debug"
  | trace => "trace"

/-- The name in capitals. -/
def label : LogLevel → String
  | error => "ERROR"
  | warn => "WARN"
  | info => "INFO"
  | debug => "DEBUG"
  | trace => "TRACE"

/-- The level that has a name, in letters of either case. -/
def ofName? (s : String) : Option LogLevel :=
  all.find? fun l => l.name.toList == s.toList.map Char.toLower

/-- The level that a text stands for: a number from 1 to 5, or a name. -/
def parse? (s : String) : Option LogLevel :=
  match Text.natBelow? 6 s.toList with
  | some (n + 1) => all[n]?
  | _ => ofName? s

def parse (s : String) : Except Fault LogLevel :=
  match parse? s with
  | some l => .ok l
  | none => .error (.config ("invalid log level: " ++ s))

/-- Whether a text sets the level of a directive. Besides the levels, logging may be off, and
nothing stands for errors. -/
def isFilter (s : String) : Bool :=
  s.isEmpty || (parse? s).isSome || Text.natBelow? 1 s.toList == some 0
    || s.toList.map Char.toLower == "off".toList

end LogLevel

end SipDialogs
