-- SUMMARY: Patterns for the values of fields, and which of them can be used.

/-! # Patterns

A directive may ask for a field whose value matches a pattern. Of a pattern, the tree keeps what
decides whether it can be used: that a part repeats, for one, but not how often.

Nothing is known here about letters, digits and cases beyond ASCII. So a pattern that reads a text
by characters has no use for words, for shorthands, or for characters in either case. One that
reads it by bytes must not match a part of a character. -/

namespace SipDialogs

namespace Pattern

/-- What a pattern can switch on and off. -/
inductive Mode where
  /-- Either case of a letter matches. -/
  | caseless
  | multiLine
  | dotTakesNewline
  | lazy
  /-- The text is read by characters, otherwise by bytes. -/
  | unicode
  | carriageReturn
  /-- Blanks in the pattern do not count, and it may have comments. -/
  | verbose
  deriving DecidableEq, Repr, Inhabited

namespace Mode

def all : List Mode :=
  [caseless, multiLine, dotTakesNewline, lazy, unicode, carriageReturn, verbose]

def letter : Mode → Char
  | caseless => 'i'
  | multiLine => 'm'
  | dotTakesNewline => 's'
  | lazy => 'U'
  | unicode => 'u'
  | carriageReturn => 'R'
  | verbose => 'x'

def ofLetter? (c : Char) : Option Mode := all.find? fun m => m.letter == c

end Mode

structure Switch where
  mode : Mode
  on : Bool
  deriving DecidableEq, Repr, Inhabited

/-- What the switches make of a mode. -/
def switched (mode : Mode) (switches : List Switch) (before : Bool) : Bool :=
  match switches.find? fun s => s.mode == mode with
  | some s => s.on
  | none => before

/-- The modes that decide whether a part can be used. -/
structure Modes where
  caseless : Bool := false
  unicode : Bool := true
  deriving DecidableEq, Repr, Inhabited

def Modes.apply (m : Modes) (switches : List Switch) : Modes where
  caseless := switched .caseless switches m.caseless
  unicode := switched .unicode switches m.unicode

/-! ## Sets of characters -/

/-- A set of characters, or a part of one. -/
inductive CharSet where
  | empty
  | char (c : Char)
  | range (first last : Char)
  /-- A class with a name of its own. -/
  | named (negated : Bool)
  /-- The digits, the blanks or the characters of words, by one letter. -/
  | shorthand (negated : Bool)
  | union (members : List CharSet)
  | brackets (negated : Bool) (inner : CharSet)
  /-- What an operator makes of two sets. -/
  | combined (left right : CharSet)

namespace CharSet

/-- The union of members. A single one stands for itself. -/
def ofMembers : List CharSet → CharSet
  | [] => empty
  | [s] => s
  | ss => union ss

mutual

/-- How deep the parts of a set are nested. -/
def depth : CharSet → Nat
  | brackets _ inner => inner.depth + 1
  | combined left right => max left.depth right.depth + 1
  | union members => depthOfAll members + 1
  | empty | char _ | range _ _ | named _ | shorthand _ => 0

def depthOfAll : List CharSet → Nat
  | [] => 0
  | s :: ss => max s.depth (depthOfAll ss)

end

mutual

/-- Whether a set can be used. -/
def isUsable (m : Modes) : CharSet → Bool
  | empty => true
  | char c => if m.unicode then !m.caseless else c.toNat < 0x80
  | range first last =>
    if m.unicode then !m.caseless else first.toNat < 0x80 && last.toNat < 0x80
  | named negated => if m.unicode then !m.caseless else !negated
  | shorthand negated => !m.unicode && !negated
  | union members => areUsable m members
  | brackets negated inner => (m.unicode || !negated) && inner.isUsable m
  | combined left right => left.isUsable m && right.isUsable m

def areUsable (m : Modes) : List CharSet → Bool
  | [] => true
  | s :: ss => s.isUsable m && areUsable m ss

end

end CharSet

end Pattern

/-! ## Patterns -/

inductive Pattern where
  | empty
  /-- Switches that hold to the end of the group. -/
  | switches (changes : List Pattern.Switch)
  | char (c : Char)
  /-- A character that is given by the digits of one byte. -/
  | byte (c : Char)
  | any
  /-- An end of the text or of a line. -/
  | edge
  /-- An end of a word, or where there is none. -/
  | wordEdge
  | shorthand (negated : Bool)
  | set (s : Pattern.CharSet)
  | repeated (p : Pattern)
  /-- Switches that hold within a group. -/
  | group (changes : List Pattern.Switch) (p : Pattern)
  | sequence (ps : List Pattern)
  | choice (ps : List Pattern)

namespace Pattern

/-- The sequence of parts. A single one stands for itself. -/
def ofParts : List Pattern → Pattern
  | [] => empty
  | [p] => p
  | ps => sequence ps

mutual

/-- How deep the parts of a pattern are nested. -/
def depth : Pattern → Nat
  | set s => s.depth
  | repeated p | group _ p => p.depth + 1
  | sequence ps | choice ps => depthOfAll ps + 1
  | empty | switches _ | char _ | byte _ | any | edge | wordEdge | shorthand _ => 0

def depthOfAll : List Pattern → Nat
  | [] => 0
  | p :: ps => max p.depth (depthOfAll ps)

end

/-- The deepest nesting that can be used. -/
def depthLimit : Nat := 250

mutual

/-- The modes that hold after a pattern, if it can be used. -/
def modesAfter (m : Modes) : Pattern → Option Modes
  | empty | edge => some m
  | switches changes => some (m.apply changes)
  | char _ => if m.unicode && m.caseless then none else some m
  | byte c =>
    if m.unicode then if m.caseless then none else some m
    else if c.toNat < 0x80 then some m
    else none
  | any => if m.unicode then some m else none
  | wordEdge => if m.unicode then none else some m
  | shorthand negated => if m.unicode || negated then none else some m
  | set s => if s.isUsable m then some m else none
  | repeated p => p.modesAfter m
  | group changes p => (p.modesAfter (m.apply changes)).map fun _ => m
  | sequence ps | choice ps => modesAfterAll m ps

def modesAfterAll (m : Modes) : List Pattern → Option Modes
  | [] => some m
  | p :: ps => (p.modesAfter m).bind fun m => modesAfterAll m ps

end

/-- Whether a pattern can be used. -/
def isUsable (p : Pattern) : Bool := p.depth ≤ depthLimit && (p.modesAfter {}).isSome

end Pattern

end SipDialogs
