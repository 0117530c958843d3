-- SUMMARY: The logging configuration of a process, and what is wrong with one.
import SipDialogs.Decode
import SipDialogs.Logging.Directive
import SipDialogs.Text.Quoted
import SipDialogs.Toml.Reader

/-! # Logging

A process logs at a base level, and at other levels where directives say so. -/

namespace SipDialogs

inductive LogFormat where
  | text
  | json
  deriving DecidableEq, Repr, Inhabited

namespace LogFormat

def all : List LogFormat := [text, json]

def name : LogFormat → String
  | text => "text"
  | json => "json"

end LogFormat

structure LoggingConfig where
  level : String := "info"
  format : LogFormat := .text
  /-- Whether the place in the source is logged. -/
  sourceLocation : Bool := false
  /-- Whether spans are logged when they are entered and left. -/
  spanEvents : Bool := false
  directives : List String := []
  /-- The name of the process in messages. -/
  appName : String := "dialog-registry"
  deriving DecidableEq, Repr, Inhabited

namespace LoggingConfig

def create (level : LogLevel) (appName : String) : LoggingConfig :=
  { level := level.name, appName }

/-- The reason why logging is not set up in a process that logs already: a bad level, else the
first bad directive, else just that. -/
def setupFault (c : LoggingConfig) : Fault :=
  match LogLevel.parse c.level with
  | .error e => e
  | .ok _ =>
    match c.directives.find? fun d => !isDirective d with
    | some bad => .config ("bad log directive " ++ Text.Quoted.text bad)
    | none => .config (c.appName ++ ": unable to install log subscriber")

def toValue (c : LoggingConfig) : Value :=
  .map [("level", .text c.level), ("format", .text c.format.name),
    ("source_location", .bool c.sourceLocation), ("span_events", .bool c.spanEvents),
    ("directives", .list (c.directives.map .text)), ("app_name", .text c.appName)]

def ofValue? (d : Dialect) (v : Value) : Option LoggingConfig := do
  let fs ← v.fields? d 6
  let missing : LoggingConfig := {}
  return {
    level := ← fs.defaulted 0 "level" missing.level Value.text?
    format := ← fs.defaulted 1 "format" missing.format
      (Value.variant? d LogFormat.all LogFormat.name)
    sourceLocation := ← fs.defaulted 2 "source_location" missing.sourceLocation Value.bool?
    spanEvents := ← fs.defaulted 3 "span_events" missing.spanEvents Value.bool?
    directives := ← fs.defaulted 4 "directives" missing.directives (Value.list? Value.text?)
    appName := ← fs.defaulted 5 "app_name" missing.appName Value.text? }

/-- Reads a configuration text. Levels and directives are not looked at. -/
def ofToml? (text : String) : Option LoggingConfig :=
  (Toml.read? text).bind (ofValue? .toml)

end LoggingConfig

end SipDialogs
