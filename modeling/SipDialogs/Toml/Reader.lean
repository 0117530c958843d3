-- SUMMARY: Reading TOML texts.
import SipDialogs.Toml.Number
import SipDialogs.Toml.Tree

/-! # Reading TOML

A text is a sequence of lines: blank lines, entries, headers of tables and headers of arrays of
tables. Entries go to the table of the last header. -/

namespace SipDialogs.Toml

/-! ## Values -/

mutual

/-- A value at a depth of nesting. -/
def value? : Nat → Nat → List Char → Option (Value × List Char)
  | 0, _, _ => none
  | fuel + 1, depth, cs =>
    match cs with
    | '"' :: _ | '\'' :: _ => (string? cs).map fun r => (.text r.1, r.2)
    | '[' :: cs =>
      if depth + 1 < depthLimit then array? fuel (depth + 1) [] (skipLines cs.length cs) else none
    | '{' :: cs =>
      if depth + 1 < depthLimit then
        match skipBlanks cs with
        | '}' :: rest => some (.map [], rest)
        | cs => inline? fuel (depth + 1) [] cs
      else none
    | 't' :: 'r' :: 'u' :: 'e' :: cs => some (.bool true, cs)
    | 'f' :: 'a' :: 'l' :: 's' :: 'e' :: cs => some (.bool false, cs)
    | cs => number? cs

/-- The items of an array up to its closing bracket; `acc` holds the earlier ones, last first. -/
def array? : Nat → Nat → List Value → List Char → Option (Value × List Char)
  | 0, _, _, _ => none
  | fuel + 1, depth, acc, cs =>
    match cs with
    | ']' :: rest => some (.list acc.reverse, rest)
    | cs => do
      let (v, rest) ← value? fuel depth cs
      match skipLines rest.length rest with
      | ',' :: rest => array? fuel depth (v :: acc) (skipLines rest.length rest)
      | ']' :: rest => some (.list (v :: acc).reverse, rest)
      | _ => none

/-- The entries of an inline table up to its closing brace, all on one line. -/
def inline? : Nat → Nat → Items → List Char → Option (Value × List Char)
  | 0, _, _, _ => none
  | fuel + 1, depth, items, cs => do
    let (key, rest) ← key? cs
    let rest ← expect? '=' rest
    let (v, rest) ← value? fuel depth (skipBlanks rest)
    let items ← items.addEntry key.dropLast (key.getLastD "") v false
    match skipBlanks rest with
    | ',' :: rest => inline? fuel depth items rest
    | '}' :: rest => some (.map (entriesOf items), rest)
    | _ => none

end

/-! ## Lines -/

/-- The tables read so far, and the path of the one that entries go to. -/
structure Document where
  items : Items := []
  header : List String := []

/-- The path and the name of a key. -/
def splitKey (key : List String) : List String × String := (key.dropLast, key.getLastD "")

/-- An entry and the end of its line. -/
def pair? (doc : Document) (cs : List Char) : Option (Document × List Char) := do
  let (key, rest) ← key? cs
  let rest ← expect? '=' rest
  let (v, rest) ← value? (2 * rest.length + 2) 0 (skipBlanks rest)
  let rest ← lineEnd? rest
  let (path, name) := splitKey key
  let items ← doc.items.descend false (fun _ items => items.addEntry path name v false) doc.header
    false
  return ({ doc with items }, rest)

/-- A header after its first bracket, and the end of its line. -/
def header? (doc : Document) (cs : List Char) : Option (Document × List Char) :=
  match cs with
  | '[' :: cs => do
    let (key, rest) ← key? cs
    let rest ← (expect? ']' rest).bind (expect? ']')
    let rest ← lineEnd? rest
    let (path, name) := splitKey key
    return (⟨← doc.items.openElement path name, key⟩, rest)
  | cs => do
    let (key, rest) ← key? cs
    let rest ← expect? ']' rest
    let rest ← lineEnd? rest
    let (path, name) := splitKey key
    return (⟨← doc.items.openTable path name, key⟩, rest)

/-- One line that is not at the end of the text. -/
def line? (doc : Document) (cs : List Char) : Option (Document × List Char) :=
  match cs with
  | '[' :: cs => header? doc cs
  | '#' :: _ | '\n' :: _ | '\r' :: _ => (lineEnd? cs).map fun rest => (doc, rest)
  | cs => pair? doc cs

/-- All lines, with fuel for each. -/
def lines? : Nat → Document → List Char → Option Document
  | 0, _, _ => none
  | fuel + 1, doc, cs =>
    match skipBlanks cs with
    | [] => some doc
    | cs => (line? doc cs).bind fun r => lines? fuel r.1 r.2

/-- The map that a text holds. A byte order mark may stand at its start. -/
def read? (text : String) : Option Value :=
  let cs := match text.toList with
    | '\uFEFF' :: cs => cs
    | cs => cs
  (lines? (cs.length + 1) {} cs).map fun doc => .map (entriesOf doc.items)

end SipDialogs.Toml
