-- SUMMARY: The configuration of a registry and of its persistence.
import SipDialogs.Decode
import SipDialogs.Table
import SipDialogs.Toml.Reader

/-! # Configuration

Every parameter has a default, and every field of a configuration text may be left out. Validation
finds the values that could not be built with. -/

namespace SipDialogs

/-- When dialogs are written to storage. -/
inductive PersistenceMode where
  | none
  /-- On creation and on every change of phase. -/
  | realtime
  /-- Periodically, the new and the changed ones. -/
  | delayed
  /-- Once, all that are live, at shutdown. -/
  | shutdown
  deriving DecidableEq, Repr, Inhabited

namespace PersistenceMode

def all : List PersistenceMode := [none, realtime, delayed, shutdown]

def name : PersistenceMode → String
  | none => "none"
  | realtime => "realtime"
  | delayed => "delayed"
  | shutdown => "shutdown"

/-- Whether a destroyed dialog is removed from storage right away. -/
def removesOnDestroy (m : PersistenceMode) : Bool := m == realtime || m == delayed

end PersistenceMode

structure PersistenceConfig where
  mode : PersistenceMode := .none
  /-- Seconds between two flushes of the delayed mode. -/
  updatePeriod : UInt32 := 60
  deriving DecidableEq, Repr, Inhabited

namespace PersistenceConfig

def validate (c : PersistenceConfig) : Except Fault Unit :=
  if c.mode = .delayed ∧ c.updatePeriod = 0 then
    .error (.config "update_period must be at least 1 second in delayed mode")
  else .ok ()

def toValue (c : PersistenceConfig) : Value :=
  .map [("mode", .text c.mode.name), ("update_period", .ofNat c.updatePeriod.toNat)]

def ofValue? (d : Dialect) (v : Value) : Option PersistenceConfig := do
  let fs ← v.fields? d 2
  let missing : PersistenceConfig := {}
  return {
    mode := ← fs.defaulted 0 "mode" missing.mode
      (Value.variant? d PersistenceMode.all PersistenceMode.name)
    updatePeriod := ← fs.defaulted 1 "update_period" missing.updatePeriod Value.word? }

/-- A configuration built from its mode and, if it is given, the period. -/
def build? (v : Value) : Option PersistenceConfig := do
  let mode ← v.get? "mode" >>= Value.variant? .json PersistenceMode.all PersistenceMode.name
  let missing : PersistenceConfig := {}
  let period ← Value.optional? Value.word? ((v.get? "update_period").getD .null)
  return { mode, updatePeriod := period.getD missing.updatePeriod }

end PersistenceConfig

structure Config where
  /-- The number of buckets of the table. -/
  hashSize : UInt32 := 4096
  /-- The number of buckets of every profile. -/
  profileHashSize : UInt32 := Profile.defaultSize
  /-- The definition of the profiles with values. -/
  profilesWithValue : String := ""
  /-- The definition of the profiles without values. -/
  profilesNoValue : String := ""
  /-- The lifetime of a new dialog in seconds. -/
  defaultTimeout : UInt32 := Table.defaultLifetime
  persistence : PersistenceConfig := {}
  deriving DecidableEq, Repr, Inhabited

namespace Config

/-- Finds the first value that could not be built with. -/
def validate (c : Config) : Except Fault Unit :=
  if c.hashSize = 0 then .error (.config "hash_size must be at least 1")
  else if !Profile.isPowerOfTwo c.profileHashSize then
    .error (.config
      ("profile_hash_size " ++ toString c.profileHashSize.toNat ++ " is not a power of 2"))
  else if c.defaultTimeout = 0 then
    .error (.config "default_timeout must be at least 1 second")
  else c.persistence.validate

def toValue (c : Config) : Value :=
  .map [("hash_size", .ofNat c.hashSize.toNat),
    ("profile_hash_size", .ofNat c.profileHashSize.toNat),
    ("profiles_with_value", .text c.profilesWithValue),
    ("profiles_no_value", .text c.profilesNoValue),
    ("default_timeout", .ofNat c.defaultTimeout.toNat),
    ("persistence", c.persistence.toValue)]

def ofValue? (d : Dialect) (v : Value) : Option Config := do
  let fs ← v.fields? d 6
  let missing : Config := {}
  return {
    hashSize := ← fs.defaulted 0 "hash_size" missing.hashSize Value.word?
    profileHashSize := ← fs.defaulted 1 "profile_hash_size" missing.profileHashSize Value.word?
    profilesWithValue := ←
      fs.defaulted 2 "profiles_with_value" missing.profilesWithValue Value.text?
    profilesNoValue := ← fs.defaulted 3 "profiles_no_value" missing.profilesNoValue Value.text?
    defaultTimeout := ← fs.defaulted 4 "default_timeout" missing.defaultTimeout Value.word?
    persistence := ←
      fs.defaulted 5 "persistence" missing.persistence (PersistenceConfig.ofValue? d) }

/-- The configuration with the given fields in place of its own. -/
def replace? (c : Config) (fields : Entries) : Option Config := do
  let fs := Fields.named fields
  return {
    hashSize := ← fs.defaulted 0 "hash_size" c.hashSize Value.word?
    profileHashSize := ← fs.defaulted 1 "profile_hash_size" c.profileHashSize Value.word?
    profilesWithValue := ← fs.defaulted 2 "profiles_with_value" c.profilesWithValue Value.text?
    profilesNoValue := ← fs.defaulted 3 "profiles_no_value" c.profilesNoValue Value.text?
    defaultTimeout := ← fs.defaulted 4 "default_timeout" c.defaultTimeout Value.word?
    persistence := ← fs.defaulted 5 "persistence" c.persistence PersistenceConfig.build? }

/-- Reads a configuration text and validates it. -/
def ofToml (text : String) : Except Fault Config :=
  match (Toml.read? text).bind (ofValue? .toml) with
  | none => .error (.config "invalid registry configuration")
  | some c => c.validate.map fun _ => c

end Config

end SipDialogs
