-- SUMMARY: Reading patterns.
import SipDialogs.Logging.Pattern
import SipDialogs.Text.Blank
import SipDialogs.Text.Letters
import SipDialogs.Text.Radix

/-! # The grammar of patterns

A pattern stands in a field, which ends with a closing brace. So no opening brace in it finds its
counterpart: counts of repetitions and whatever else goes between braces are not read here. A
verbose pattern may have blanks and comments between its parts, and between the digits of a
character, but not within an operator. -/

namespace SipDialogs.Pattern

mutual

def skipBlanks : List Char → List Char
  | [] => []
  | c :: cs =>
    if Text.isBlank c then skipBlanks cs
    else if c = '#' then skipComment cs
    else c :: cs

/-- A comment goes to the end of its line. -/
def skipComment : List Char → List Char
  | [] => []
  | c :: cs => if c = '\n' then skipBlanks cs else skipComment cs

end

/-- Skips what does not count. -/
def skip (verbose : Bool) (cs : List Char) : List Char := if verbose then skipBlanks cs else cs

/-! ## Single characters -/

/-- Reads the digits of a character. -/
def readCode (verbose : Bool) : Nat → Nat → List Char → Option (Char × List Char)
  | 0, code, cs => if code.isValidChar then some (Char.ofNat code, cs) else none
  | count + 1, code, cs =>
    match skip verbose cs with
    | [] => none
    | c :: cs => (Text.digitIn? 16 c).bind fun d => readCode verbose count (code * 16 + d) cs

/-- What one letter after a backslash stands for, if it takes nothing more. -/
def ofLetter? : Char → Option Pattern
  | 'a' => some (char '\x07')
  | 'f' => some (char '\x0c')
  | 't' => some (char '\t')
  | 'n' => some (char '\n')
  | 'r' => some (char '\r')
  | 'v' => some (char '\x0b')
  | 'A' | 'z' => some edge
  | 'b' | 'B' => some wordEdge
  | 'd' | 's' | 'w' => some (shorthand false)
  | 'D' | 'S' | 'W' => some (shorthand true)
  | _ => none

/-- Reads what follows a backslash. Letters and digits have meanings or are refused; all else in
ASCII but the angle brackets stands for itself. -/
def readEscape (verbose : Bool) : List Char → Option (Pattern × List Char)
  | [] => none
  | c :: cs =>
    if c = 'x' then (readCode verbose 2 0 cs).map fun (c, cs) => (byte c, cs)
    else if c = 'u' then (readCode verbose 4 0 cs).map fun (c, cs) => (char c, cs)
    else if c = 'U' then (readCode verbose 8 0 cs).map fun (c, cs) => (char c, cs)
    else if c.isAlphanum then (ofLetter? c).map fun p => (p, cs)
    else if c = '<' ∨ c = '>' then some (wordEdge, cs)
    else if c.toNat < 0x80 then some (char c, cs)
    else none

/-! ## Sets -/

/-- The names of classes. -/
def classNames : List String :=
  ["alnum", "alpha", "ascii", "blank", "cntrl", "digit", "graph", "lower", "print", "punct",
    "space", "upper", "word", "xdigit"]

/-- Reads a class by its name, after the bracket. -/
def readClass : List Char → Option (CharSet × List Char)
  | ':' :: cs =>
    let negated := cs.head? == some '^'
    let cs := if negated then cs.drop 1 else cs
    match cs.dropWhile (· != ':') with
    | ':' :: ']' :: rest =>
      if classNames.contains (String.ofList (cs.takeWhile (· != ':'))) then
        some (.named negated, rest)
      else none
    | _ => none
  | _ => none

/-- Reads one character of a set, or a backslash and what follows it. -/
def readMember (verbose : Bool) : List Char → Option (Pattern × List Char)
  | [] => none
  | '\\' :: cs => readEscape verbose cs
  | c :: cs => some (char c, cs)

/-- The character that a pattern stands for. -/
def char? : Pattern → Option Char
  | char c | byte c => some c
  | _ => none

/-- The set that a pattern stands for. -/
def charSet? : Pattern → Option CharSet
  | char c | byte c => some (.char c)
  | shorthand negated => some (.shorthand negated)
  | _ => none

/-- The character after a dash that decides whether the dash makes a range. Of a comment that
follows, only the number sign is skipped. -/
def peek (verbose : Bool) (cs : List Char) : Option Char :=
  if verbose then
    match Text.trimStart cs with
    | '#' :: cs => (Text.trimStart cs).head?
    | cs => cs.head?
  else cs.head?

/-- Reads a member of a set, or a range. A dash makes a range unless the set ends after it or a
second dash follows. -/
def readRange (verbose : Bool) (cs : List Char) : Option (CharSet × List Char) := do
  let (first, cs) ← readMember verbose cs
  let cs := skip verbose cs
  match cs with
  | '-' :: rest =>
    if peek verbose rest = some ']' ∨ peek verbose rest = some '-' then
      return (← charSet? first, cs)
    else
      let (last, cs) ← readMember verbose (skip verbose rest)
      let first ← char? first
      let last ← char? last
      if first ≤ last then return (.range first last, cs) else none
  | _ => return (← charSet? first, cs)

/-- A set that is being read. -/
structure OpenSet where
  negated : Bool
  /-- Whether there was nothing but dashes so far; they stand for themselves. -/
  fresh : Bool := true
  /-- What stands before the last operator. -/
  left : Option CharSet := none
  /-- The members after it, last first. -/
  members : List CharSet := []

namespace OpenSet

def add (s : OpenSet) (member : CharSet) : OpenSet :=
  { s with fresh := false, members := member :: s.members }

/-- Everything before the next operator. -/
def inner (s : OpenSet) : CharSet :=
  let right := CharSet.ofMembers s.members.reverse
  match s.left with
  | some left => .combined left right
  | none => right

/-- Turns to the right side of an operator. -/
def operator (s : OpenSet) : OpenSet :=
  { s with fresh := false, left := some s.inner, members := [] }

def close (s : OpenSet) : CharSet := .brackets s.negated s.inner

end OpenSet

/-- Opens a set after its bracket. -/
def openSet (verbose : Bool) (cs : List Char) : OpenSet × List Char :=
  match skip verbose cs with
  | '^' :: cs => ({ negated := true }, cs)
  | cs => ({ negated := false }, cs)

/-- Reads a set and the sets in it. A closing bracket that comes first stands for itself. -/
def readSet (verbose : Bool) :
    Nat → OpenSet → List OpenSet → List Char → Option (CharSet × List Char)
  | 0, _, _, _ => none
  | fuel + 1, s, outer, cs =>
    match skip verbose cs with
    | [] => none
    | '[' :: cs =>
      match readClass cs with
      | some (named, cs) => readSet verbose fuel (s.add named) outer cs
      | none =>
        let (inner, cs) := openSet verbose cs
        readSet verbose fuel inner (s :: outer) cs
    | ']' :: cs =>
      if s.fresh && s.members.isEmpty then
        readSet verbose fuel (s.add (.char ']')) outer cs
      else match outer with
        | [] => some (s.close, cs)
        | around :: outer => readSet verbose fuel (around.add s.close) outer cs
    | c :: cs =>
      if s.fresh && c == '-' then
        readSet verbose fuel { s.add (.char '-') with fresh := true } outer cs
      else if (c == '&' || c == '-' || c == '~') && cs.head? == some c then
        readSet verbose fuel s.operator outer (cs.drop 1)
      else
        match readRange verbose (c :: cs) with
        | some (member, cs) => readSet verbose fuel (s.add member) outer cs
        | none => none

/-! ## Groups -/

/-- Reads switches up to the end of the group or the colon, and says whether the group ended. Modes
after a dash are switched off; a mode is switched once. -/
def readSwitches (on : Bool) (seen : List Switch) :
    List Char → Option (List Switch × Bool × List Char)
  | [] => none
  | ')' :: cs => some (seen.reverse, true, cs)
  | ':' :: cs => some (seen.reverse, false, cs)
  | '-' :: cs =>
    if !on || cs.head? == some ')' || cs.head? == some ':' then none
    else readSwitches false seen cs
  | c :: cs =>
    match Mode.ofLetter? c with
    | some mode =>
      if seen.any (·.mode == mode) then none else readSwitches on (⟨mode, on⟩ :: seen) cs
    | none => none

/-- Whether a character can stand in the name of a group, first in it or later. -/
def isNameChar (first : Bool) (c : Char) : Bool :=
  c == '_' || if first then Text.isLetter c
    else c == '.' || c == '[' || c == ']' || Text.isLetterOrDigit c

/-- Reads the name of a group. -/
def readName (cs : List Char) : Option (List Char × List Char) :=
  match cs.takeWhile (· != '>'), cs.dropWhile (· != '>') with
  | c :: name, _ :: rest =>
    if isNameChar true c && name.all (isNameChar false) then some (c :: name, rest) else none
  | _, _ => none

/-- The alternatives of a group that is being read. -/
structure Branches where
  /-- Those before the last bar, last first. -/
  earlier : List Pattern := []
  /-- The parts of the last one, last first. -/
  parts : List Pattern := []

namespace Branches

def add (b : Branches) (p : Pattern) : Branches := { b with parts := p :: b.parts }

/-- Turns to the next alternative. -/
def bar (b : Branches) : Branches := { earlier := ofParts b.parts.reverse :: b.earlier }

def close (b : Branches) : Pattern :=
  let last := ofParts b.parts.reverse
  if b.earlier.isEmpty then last else choice (last :: b.earlier).reverse

end Branches

/-- A group that is being read, and what there was around it. -/
structure OpenGroup where
  changes : List Switch
  outer : Branches
  verbose : Bool

/-- Where the reading of a pattern stands. -/
structure Reading where
  branches : Branches := {}
  /-- The groups around it, innermost first. -/
  groups : List OpenGroup := []
  verbose : Bool := false
  /-- The names of groups so far. -/
  names : List (List Char) := []

namespace Reading

def add (r : Reading) (p : Pattern) : Reading := { r with branches := r.branches.add p }

def enter (r : Reading) (changes : List Switch) : Reading :=
  { r with
    branches := {}
    groups := ⟨changes, r.branches, r.verbose⟩ :: r.groups
    verbose := switched .verbose changes r.verbose }

/-- Reads the opening of a group, after the parenthesis. Switches alone are no group. -/
def openGroup (r : Reading) (cs : List Char) : Option (Reading × List Char) :=
  match skip r.verbose cs with
  | '?' :: 'P' :: '<' :: cs | '?' :: '<' :: cs =>
    match readName cs with
    | some (name, cs) =>
      if r.names.contains name then none
      else some ({ r with names := name :: r.names }.enter [], cs)
    | none => none
  | '?' :: cs =>
    match readSwitches true [] cs with
    | some ([], true, _) => none
    | some (changes, true, cs) =>
      some ({ r with verbose := switched .verbose changes r.verbose }.add (switches changes), cs)
    | some (changes, false, cs) => some (r.enter changes, cs)
    | none => none
  | cs => some (r.enter [], cs)

def closeGroup (r : Reading) : Option Reading :=
  match r.groups with
  | [] => none
  | g :: groups =>
    some { r with
      branches := g.outer.add (group g.changes r.branches.close)
      groups
      verbose := g.verbose }

/-- Repeats the last part. Switches cannot be repeated. -/
def repeatLast (r : Reading) : Option Reading :=
  match r.branches.parts with
  | [] | switches _ :: _ => none
  | p :: parts => some { r with branches := { r.branches with parts := repeated p :: parts } }

/-- The pattern, if every group has ended. -/
def finish (r : Reading) : Option Pattern :=
  if r.groups.isEmpty then some r.branches.close else none

/-- Reads one part that starts with `c`. -/
def step (r : Reading) (c : Char) (cs : List Char) : Option (Reading × List Char) :=
  match c with
  | '(' => r.openGroup cs
  | ')' => r.closeGroup.map fun r => (r, cs)
  | '|' => some ({ r with branches := r.branches.bar }, cs)
  | '[' =>
    let (s, cs) := openSet r.verbose cs
    (readSet r.verbose (cs.length + 1) s [] cs).map fun (s, cs) => (r.add (set s), cs)
  | '?' | '*' | '+' =>
    r.repeatLast.map fun r => (r, if cs.head? == some '?' then cs.drop 1 else cs)
  | '\x7b' => none
  | '\\' => (readEscape r.verbose cs).map fun (p, cs) => (r.add p, cs)
  | '.' => some (r.add any, cs)
  | '^' | '$' => some (r.add edge, cs)
  | c => some (r.add (char c), cs)

/-- Reads to the end. Every step takes at least one character, which bounds their number. -/
def run : Nat → Reading → List Char → Option Pattern
  | 0, _, _ => none
  | fuel + 1, r, cs =>
    match skip r.verbose cs with
    | [] => r.finish
    | c :: cs => (r.step c cs).bind fun (r, cs) => run fuel r cs

end Reading

/-- Reads a pattern. -/
def parse? (cs : List Char) : Option Pattern := Reading.run (cs.length + 1) {} cs

end SipDialogs.Pattern
