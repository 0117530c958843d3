-- SUMMARY: The profiles of a process, by name.
import SipDialogs.Profile
import SipDialogs.Text.Blank

/-! # Directory of profiles

Profiles are defined once, in order, under distinct names. A definition is a list of names between
semicolons; blanks around a name are dropped, and so are blank names. -/

namespace SipDialogs

structure Directory where
  profiles : List Profile := []

namespace Directory

/-- Splits a text at every semicolon. -/
def splitNames : List Char → List (List Char)
  | [] => [[]]
  | c :: cs =>
    if c = ';' then [] :: splitNames cs
    else match splitNames cs with
      | first :: rest => (c :: first) :: rest
      | [] => [[c]]

/-- The names that a definition lists. -/
def definedNames (list : String) : List String :=
  ((splitNames list.toList).map Text.trim).filter (!·.isEmpty) |>.map String.ofList

def search? (d : Directory) (name : String) : Option Profile :=
  d.profiles.find? fun p => p.name == name

def get (d : Directory) (name : String) : Except Fault Profile :=
  match d.search? name with
  | some p => .ok p
  | none => .error (.profileNotFound name)

def names (d : Directory) : List String := d.profiles.map (·.name)

/-- Puts a changed profile in the place of the one with its name. -/
def put (d : Directory) (p : Profile) : Directory :=
  ⟨d.profiles.map fun q => if q.name == p.name then p else q⟩

/-- Appends a new profile. -/
def register (d : Directory) (name : String) (size : UInt32) (hasValue : Bool) :
    Except Fault Directory :=
  match Profile.create name size hasValue with
  | .error e => .error e
  | .ok p =>
    if (d.search? name).isSome then .error (.duplicateProfile name)
    else .ok ⟨d.profiles ++ [p]⟩

/-- Registers names in order, up to the first that is refused. The profiles before it stay. -/
def registerAll (d : Directory) (size : UInt32) (hasValue : Bool) :
    List String → Directory × Except Fault Unit
  | [] => (d, .ok ())
  | name :: names =>
    match d.register name size hasValue with
    | .error e => (d, .error e)
    | .ok d => registerAll d size hasValue names

/-- Registers every name of a definition. -/
def addDefinitions (d : Directory) (list : String) (hasValue : Bool) (size : UInt32) :
    Directory × Except Fault Unit :=
  d.registerAll size hasValue (definedNames list)

/-- The directory of two definitions, profiles with values first. -/
def ofDefinitions (withValue withoutValue : String) (size : UInt32) : Except Fault Directory :=
  match Directory.addDefinitions {} withValue true size with
  | (_, .error e) => .error e
  | (d, .ok ()) =>
    match d.addDefinitions withoutValue false size with
    | (_, .error e) => .error e
    | (d, .ok ()) => .ok d

/-- Removes the profile's half of each membership. -/
def removeMembers (d : Directory) (links : List Link) : Directory :=
  links.foldl (fun d l =>
    match d.search? l.profile with
    | some p => d.put (p.removeMember l)
    | none => d) d

/-- The number of memberships in a profile. -/
def count (d : Directory) (name : String) (value : Option String) : Except Fault Nat :=
  (d.get name).map (·.count value)

end Directory

end SipDialogs
