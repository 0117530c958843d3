-- SUMMARY: Blanks, comments, strings and keys of TOML.
import SipDialogs.Text.Radix

/-! # Texts in TOML

A reader takes a list of characters and returns what it read with what follows. Lines end with a
line feed, or with a carriage return and a line feed. Control characters other than the tab stand
nowhere. -/

namespace SipDialogs.Toml

def isBlank (c : Char) : Bool := c == ' ' || c == '\t'

def skipBlanks (cs : List Char) : List Char := cs.dropWhile isBlank

/-- A character that may stand in a comment or a literal string. -/
def isPlain (c : Char) : Bool := c == '\t' || (0x20 ≤ c.toNat && c.toNat != 0x7F)

/-- Skips the end of a line. -/
def newline? : List Char → Option (List Char)
  | '\n' :: cs => some cs
  | '\r' :: '\n' :: cs => some cs
  | _ => none

/-- Skips a comment, if there is one. -/
def skipComment : List Char → List Char
  | '#' :: cs => cs.dropWhile isPlain
  | cs => cs

/-- Skips blanks, a comment and the end of the line or of the text. -/
def lineEnd? (cs : List Char) : Option (List Char) :=
  match skipComment (skipBlanks cs) with
  | [] => some []
  | cs => newline? cs

/-- Skips blanks, comments and ends of lines, with fuel for each. A comment must end its line. -/
def skipLines : Nat → List Char → List Char
  | 0, cs => cs
  | fuel + 1, cs =>
    let cs := skipBlanks cs
    match newline? (skipComment cs) with
    | some rest => skipLines fuel rest
    | none => cs

/-! ## Strings -/

/-- The character that an escape denotes; the backslash has been read. -/
def escape? : List Char → Option (Char × List Char)
  | 'b' :: cs => some ('\x08', cs)
  | 't' :: cs => some ('\t', cs)
  | 'n' :: cs => some ('\n', cs)
  | 'f' :: cs => some ('\x0c', cs)
  | 'r' :: cs => some ('\r', cs)
  | '"' :: cs => some ('"', cs)
  | '\\' :: cs => some ('\\', cs)
  | 'u' :: cs => scalar? 4 cs
  | 'U' :: cs => scalar? 8 cs
  | _ => none
where
  /-- A code point in so many hexadecimal digits. -/
  scalar? (count : Nat) (cs : List Char) : Option (Char × List Char) := do
    let (n, rest) ← Text.digitsIn? 16 count 0 cs
    if n < 0xD800 ∨ (0xDFFF < n ∧ n < 0x110000) then some (Char.ofNat n, rest) else none

/-- A basic string after its opening quote; `acc` holds what was read, last first. -/
def basic? : Nat → List Char → List Char → Option (List Char × List Char)
  | 0, _, _ => none
  | _ + 1, _, [] => none
  | _ + 1, acc, '"' :: cs => some (acc.reverse, cs)
  | fuel + 1, acc, '\\' :: cs => do
    let (c, rest) ← escape? cs
    basic? fuel (c :: acc) rest
  | fuel + 1, acc, c :: cs => if isPlain c then basic? fuel (c :: acc) cs else none

/-- A literal string after its opening apostrophe. -/
def literal? (cs : List Char) : Option (List Char × List Char) :=
  match cs.span fun c => isPlain c && c != '\'' with
  | (body, '\'' :: rest) => some (body, rest)
  | _ => none

/-- Splits a run of quotes that closes a string of several lines, or stands inside of it. Up to
two quotes may stand before the three that close. -/
def quoteRun (quote : Char) (cs : List Char) : List Char × Bool × List Char :=
  let count := (cs.takeWhile (· == quote)).length
  if count < 3 then (List.replicate count quote, false, cs.drop count)
  else
    let inside := if count < 5 then count - 3 else 2
    (List.replicate inside quote, true, cs.drop (inside + 3))

/-- Skips the rest of a line that ends with a backslash, with all blank lines and
blanks after it. -/
def skipContinuation? (cs : List Char) : Option (List Char) :=
  (newline? (skipBlanks cs)).map fun rest => skip (rest.length + 1) rest
where
  skip : Nat → List Char → List Char
    | 0, cs => cs
    | fuel + 1, cs =>
      let cs := skipBlanks cs
      match newline? cs with
      | some rest => skip fuel rest
      | none => cs

/-- A string of several lines after its opening quotes. Backslashes are escapes if the quotes are
double. -/
def multiline? (quote : Char) : Nat → List Char → List Char → Option (List Char × List Char)
  | 0, _, _ => none
  | _ + 1, _, [] => none
  | fuel + 1, acc, c :: cs =>
    if c = quote then
      let (inside, closed, rest) := quoteRun quote (c :: cs)
      let acc := inside ++ acc
      if closed then some (acc.reverse, rest) else multiline? quote fuel acc rest
    else if c = '\\' ∧ quote = '"' then
      match skipContinuation? cs with
      | some rest => multiline? quote fuel acc rest
      | none => do
        let (c, rest) ← escape? cs
        multiline? quote fuel (c :: acc) rest
    else match newline? (c :: cs) with
      | some rest => multiline? quote fuel ('\n' :: acc) rest
      | none => if isPlain c then multiline? quote fuel (c :: acc) cs else none

/-- An end of line right after the opening quotes does not count. -/
def dropFirstNewline (cs : List Char) : List Char := (newline? cs).getD cs

/-- A string of any of the four kinds. -/
def string? (cs : List Char) : Option (String × List Char) :=
  let found := match cs with
    | '"' :: '"' :: '"' :: cs => multiline? '"' (cs.length + 1) [] (dropFirstNewline cs)
    | '\'' :: '\'' :: '\'' :: cs => multiline? '\'' (cs.length + 1) [] (dropFirstNewline cs)
    | '"' :: cs => basic? (cs.length + 1) [] cs
    | '\'' :: cs => literal? cs
    | _ => none
  found.map fun r => (String.ofList r.1, r.2)

/-! ## Keys -/

def isBare (c : Char) : Bool := c.isAlphanum || c == '-' || c == '_'

/-- One part of a key: bare, or a string of one line. -/
def keyPart? (cs : List Char) : Option (String × List Char) :=
  let found := match cs with
    | '"' :: cs => basic? (cs.length + 1) [] cs
    | '\'' :: cs => literal? cs
    | cs =>
      let (bare, rest) := cs.span isBare
      if bare.isEmpty then none else some (bare, rest)
  found.map fun r => (String.ofList r.1, r.2)

/-- How deep things may be nested. -/
def depthLimit : Nat := 80

/-- A key: parts between points, with blanks around each; there are fewer parts than the depth
limit. -/
def key? (cs : List Char) : Option (List String × List Char) :=
  (parts (cs.length + 1) cs).filter fun r => r.1.length < depthLimit
where
  parts : Nat → List Char → Option (List String × List Char)
    | 0, _ => none
    | fuel + 1, cs => do
      let (part, rest) ← keyPart? (skipBlanks cs)
      match skipBlanks rest with
      | '.' :: rest =>
        let (more, rest) ← parts fuel rest
        return (part :: more, rest)
      | rest => return ([part], rest)

end SipDialogs.Toml
