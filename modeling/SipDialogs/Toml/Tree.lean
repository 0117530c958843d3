-- SUMMARY: The tables of a TOML text while it is read.
import SipDialogs.Value

/-! # Tables

While a text is read, a table remembers how it came about. A table is implicit as long as it was
only passed through on the way to another, and dotted if that happened in a dotted key. A header
opens a table once; dotted keys extend only tables that dotted keys made. -/

namespace SipDialogs.Toml

inductive Item where
  | value (v : Value)
  | table (implicit dotted : Bool) (entries : List (String × Item))
  /-- An array of tables, in order. -/
  | tables (elements : List (List (String × Item)))

/-- The entries of a table, in order. -/
abbrev Items := List (String × Item)

namespace Items

def get? (items : Items) (name : String) : Option Item :=
  (items.find? fun e => e.1 == name).map (·.2)

/-- Replaces the entry under a name. -/
def replace (items : Items) (name : String) (item : Item) : Items :=
  items.map fun e => if e.1 == name then (name, item) else e

/-- Changes the table at the end of a path, on which `dotted` tables are made where there are
none. Of an array of tables, the last is meant. `f` is told whether the table is dotted. -/
def descend (dotted : Bool) (f : Bool → Items → Option Items) :
    List String → Bool → Items → Option Items
  | [], isDotted, items => f isDotted items
  | name :: path, _, items =>
    match items.get? name with
    | none => (descend dotted f path dotted []).map fun sub =>
        items ++ [(name, .table true dotted sub)]
    | some (.value _) => none
    | some (.table implicit isDotted sub) =>
      if dotted && !implicit then none
      else (descend dotted f path isDotted sub).map fun sub =>
        items.replace name (.table implicit isDotted sub)
    | some (.tables elements) =>
      match elements.getLast? with
      | none => none
      | some last => (descend dotted f path false last).map fun last =>
          items.replace name (.tables (elements.dropLast ++ [last]))

/-- Adds an entry under a dotted key: `path` leads to the table, and the table must have been made
in the same way. -/
def addEntry (path : List String) (name : String) (v : Value) (isDotted : Bool) (items : Items) :
    Option Items :=
  descend true (fun isDotted items =>
    if isDotted == path.isEmpty || (items.get? name).isSome then none
    else some (items ++ [(name, .value v)])) path isDotted items

/-- Opens a table under its header. It may have been passed through, but not been opened. -/
def openTable (path : List String) (name : String) (items : Items) : Option Items :=
  descend false (fun _ items =>
    match items.get? name with
    | none => some (items ++ [(name, .table false false [])])
    | some (.table true false sub) => some (items.replace name (.table false false sub))
    | some _ => none) path false items

/-- Opens the next table of an array under its header. -/
def openElement (path : List String) (name : String) (items : Items) : Option Items :=
  descend false (fun _ items =>
    match items.get? name with
    | none => some (items ++ [(name, .tables [[]])])
    | some (.tables elements) => some (items.replace name (.tables (elements ++ [[]])))
    | some _ => none) path false items

end Items

mutual

def Item.toValue : Item → Value
  | .value v => v
  | .table _ _ entries => .map (entriesOf entries)
  | .tables elements => .list (elementsOf elements)

/-- The entries of a table as values. -/
def entriesOf : List (String × Item) → Entries
  | [] => []
  | (name, item) :: items => (name, item.toValue) :: entriesOf items

/-- The tables of an array as values. -/
def elementsOf : List (List (String × Item)) → List Value
  | [] => []
  | e :: es => .map (entriesOf e) :: elementsOf es

end

end SipDialogs.Toml
