-- SUMMARY: Structured data, as JSON and TOML texts hold it.

/-! # Values

One type for what a JSON or a TOML text holds. Integers are exact. Every other number, and every
date or time, is kept as it was written: nothing here computes with them. -/

namespace SipDialogs

inductive Value where
  | null
  | bool (b : Bool)
  | int (n : Int)
  /-- A number that is no integer of 64 bits, as it was written. -/
  | real (text : String)
  /-- A date or a time, as it was written. -/
  | moment (text : String)
  | text (s : String)
  | list (items : List Value)
  | map (entries : List (String × Value))
  deriving Inhabited

/-- The entries of a map, in order of insertion and with distinct names. -/
abbrev Entries := List (String × Value)

namespace Entries

def get? (es : Entries) (name : String) : Option Value :=
  (es.find? fun e => e.1 == name).map (·.2)

/-- Sets an entry; one that is there already keeps its place. -/
def insert (name : String) (v : Value) : Entries → Entries
  | [] => [(name, v)]
  | e :: es => if e.1 == name then (name, v) :: es else e :: insert name v es

/-- Sets every entry of `more`, in order. -/
def insertAll (more : Entries) (es : Entries) : Entries :=
  more.foldl (fun es e => insert e.1 e.2 es) es

end Entries

namespace Value

/-- The least integer of 64 bits. -/
def least64 : Int := -9223372036854775808

/-- The greatest integer of 64 bits. -/
def greatest64 : Int := 9223372036854775807

/-- A text, or null for none. -/
def ofText? : Option String → Value
  | some s => .text s
  | none => .null

def ofNat (n : Nat) : Value := .int n

/-- The entry of a map, and none for everything else. -/
def get? (v : Value) (name : String) : Option Value :=
  match v with
  | .map es => Entries.get? es name
  | _ => none

end Value

end SipDialogs
