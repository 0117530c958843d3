-- SUMMARY: Directives, which set log levels for parts of a process.
import SipDialogs.Logging.Level
import SipDialogs.Logging.Pattern.Reader
import SipDialogs.Text.Slice

/-! # Directives

A directive is a target and a level, with an equals sign between them; a span with fields, in
brackets, may follow the target. -/

namespace SipDialogs

/-! ## Fields -/

/-- The value that a field asks for, between its first two equals signs. -/
def fieldValue? (field : List Char) : Option (List Char) :=
  match field.dropWhile (· != '=') with
  | [] => none
  | _ :: cs => some (cs.takeWhile (· != '='))

/-- Whether a value can be asked for. It is a number or a pattern; a truth value is a pattern. -/
def isFieldValue (cs : List Char) : Bool :=
  Text.isNumber cs || (Pattern.parse? cs).any (·.isUsable)

/-- Whether a text is a field. Its name may be anything. -/
def isField (field : List Char) : Bool :=
  !field.isEmpty && (fieldValue? field).all isFieldValue

/-! ## Reading -/

/-- Where the reading of a directive stands. Places are counted in bytes. -/
inductive DirectiveState where
  | start
  /-- In a level or a target. -/
  | opening
  | span
  /-- In a field that begins at this place. -/
  | field (first : Nat)
  /-- After the fields of a span. -/
  | fields
  /-- After a span. -/
  | target
  /-- In a level that begins at this place. -/
  | level (first : Nat)
  | complete
  deriving DecidableEq, Repr

namespace DirectiveState

/-- Whether the part between two places sets a level. -/
def isLevel (whole : List Char) (first last : Nat) : Bool :=
  LogLevel.isFilter (String.ofList (Text.slice first last whole))

/-- Reads the character at a place. -/
def step (whole : List Char) (s : DirectiveState) (place : Nat) (c : Char) :
    Option DirectiveState :=
  match s with
  | start =>
    if c = '[' then some span
    else if c = '-' ∨ c = ':' ∨ c = '_' ∨ Text.isLetterOrDigit c then some opening
    else none
  | opening =>
    if c = '=' then some (level (place + 1))
    else if c = '[' then some span
    else if c = ',' then some complete
    else some opening
  | span =>
    if c = ']' then some target
    else if c = '\x7b' then some (field (place + 1))
    else some span
  | field first =>
    if c = '\x7d' then if isField (Text.slice first place whole) then some fields else none
    else if c = ',' then
      if isField (Text.slice first place whole) then some (field (place + 1)) else none
    else some (field first)
  | fields => if c = ']' then some target else none
  | target => if c = '=' then some (level (place + 1)) else none
  | level first =>
    if c = ',' then if isLevel whole first place then some complete else none
    else some (level first)
  | complete => none

/-- Reads characters from a place on. -/
def run (whole : List Char) : DirectiveState → Nat → List Char → Option DirectiveState
  | s, _, [] => some s
  | s, place, c :: cs =>
    (s.step whole place c).bind fun s => run whole s (place + c.utf8Size) cs

/-- Whether a directive may end here. -/
def isFinal (whole : List Char) : DirectiveState → Bool
  | opening | target | complete => true
  | level first => LogLevel.isFilter (String.ofList (Text.dropBytes first whole))
  | start | span | field _ | fields => false

end DirectiveState

/-- Whether a text is a directive. The places of its parts are counted without the blanks around
it, and the parts are read with them. -/
def isDirective (s : String) : Bool :=
  (DirectiveState.run s.toList .start 0 (Text.trim s.toList)).any (·.isFinal s.toList)

end SipDialogs
