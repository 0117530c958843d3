-- SUMMARY: Typed reading of structured values.
import SipDialogs.Value

/-! # Decoding

Integers must be integers in range, texts must be texts, and a variant must be exactly one of its
names. A structure is a map of its fields, other entries being passed over, or a list of its
fields in order. What the two text formats do differently is in `Dialect`. -/

namespace SipDialogs

/-- Where the formats differ. -/
structure Dialect where
  /-- A list may hold more items than the structure has fields. -/
  surplus : Bool
  /-- What may stand beside the name of a bare variant that is written as a map of one entry. -/
  barePayload : Value → Bool

namespace Dialect

def json : Dialect where
  surplus := false
  barePayload
    | .null => true
    | _ => false

def toml : Dialect where
  surplus := true
  barePayload
    | .list [] | .map [] => true
    | _ => false

end Dialect

namespace Value

def bool? : Value → Option Bool
  | .bool b => some b
  | _ => none

def text? : Value → Option String
  | .text s => some s
  | _ => none

/-- An integer from `least` to `greatest`. -/
def intBetween? (least greatest : Int) : Value → Option Int
  | .int n => if least ≤ n ∧ n ≤ greatest then some n else none
  | _ => none

/-- A natural number below `limit`. -/
def natBelow? (limit : Nat) : Value → Option Nat
  | .int n => if 0 ≤ n ∧ n < limit then some n.toNat else none
  | _ => none

def word? (v : Value) : Option UInt32 := (v.natBelow? UInt32.size).map UInt32.ofNat

def byte? (v : Value) : Option UInt8 := (v.natBelow? UInt8.size).map UInt8.ofNat

/-- Null for none. -/
def optional? (decode : Value → Option α) : Value → Option (Option α)
  | .null => some none
  | v => (decode v).map some

def list? (decode : Value → Option α) : Value → Option (List α)
  | .list items => items.mapM decode
  | _ => none

def entries? : Value → Option Entries
  | .map es => some es
  | _ => none

/-- One of `all`, written as its name. -/
def variant? (d : Dialect) (all : List α) (name : α → String) (v : Value) : Option α :=
  match v with
  | .text s => all.find? fun a => name a == s
  | .map [(s, payload)] => if d.barePayload payload then all.find? fun a => name a == s else none
  | _ => none

end Value

/-- The fields of a structure, by name or by place. -/
inductive Fields where
  | named (entries : Entries)
  | placed (items : List Value)

/-- Opens a value as a structure of `count` fields. A date or a time is one that
has other fields. -/
def Value.fields? (d : Dialect) (count : Nat) : Value → Option Fields
  | .map es => some (.named es)
  | .moment _ => some (.named [])
  | .list items => if d.surplus || items.length ≤ count then some (.placed items) else none
  | _ => none

namespace Fields

def get? (fs : Fields) (place : Nat) (name : String) : Option Value :=
  match fs with
  | named es => Entries.get? es name
  | placed items => items[place]?

/-- A field that must be there. -/
def required (fs : Fields) (place : Nat) (name : String) (decode : Value → Option α) : Option α :=
  (fs.get? place name).bind decode

/-- A field that stands for `missing` when it is not there. -/
def defaulted (fs : Fields) (place : Nat) (name : String) (missing : α)
    (decode : Value → Option α) : Option α :=
  match fs.get? place name with
  | some v => decode v
  | none => some missing

/-- A field that may be null, and may be left out where fields are named. -/
def nullable (fs : Fields) (place : Nat) (name : String) (decode : Value → Option α) :
    Option (Option α) :=
  match fs.get? place name, fs with
  | some v, _ => v.optional? decode
  | none, named _ => some none
  | none, placed _ => none

end Fields

end SipDialogs
