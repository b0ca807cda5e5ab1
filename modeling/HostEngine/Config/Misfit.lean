import HostEngine.Text.Quoted
import HostEngine.Yaml.Meaning
/-!
Why a well-formed document is no configuration: what was found where something else was expected,
and at which place. A complaint about a whole section is placed at the section's start.
-/
set_option autoImplicit false

namespace HostEngine

inductive Found where
  | bool (value : Bool)
  | integer (value : Int)
  | float (value : Binary64)
  | text (value : String)
  | nothing
  | sequence
  | mapping
  deriving DecidableEq, Repr

/-- An integer, with its width when that is above 64 bits. -/
def Found.integerText (value : Int) : String :=
  let digits := signedDecimal value
  if (UInt64.size : Int) ≤ value then "integer `" ++ digits ++ "` as u128"
  else if value < -(UInt64.size / 2 : Int) then "integer `" ++ digits ++ "` as i128"
  else "integer `" ++ digits ++ "`"

def Found.describe : Found → String
  | bool value => "boolean `" ++ (if value then "true" else "false") ++ "`"
  | integer value => integerText value
  | float value => "floating point `" ++ value.text ++ "`"
  | text value => "string " ++ Quoted.text value
  | nothing => "unit value"
  | sequence => "sequence"
  | mapping => "map"

inductive Complaint where
  | wrongType (found : Found) (expected : String)
  | wrongValue (found : Found) (expected : String)
  | unknownVariant (name : String) (known : List String)
  | duplicateField (name : String)
  | missingField (name : String)
  | nothingThere
  deriving DecidableEq, Repr

def Complaint.listed (names : List String) : String :=
  ", ".intercalate (names.map fun name => "`" ++ name ++ "`")

def Complaint.message : Complaint → String
  | wrongType found expected =>
    "invalid type: " ++ found.describe ++ ", expected " ++ expected
  | wrongValue found expected =>
    "invalid value: " ++ found.describe ++ ", expected " ++ expected
  | unknownVariant name known =>
    "unknown variant `" ++ name ++ "`, expected one of " ++ listed known
  | duplicateField name => "duplicate field `" ++ name ++ "`"
  | missingField name => "missing field `" ++ name ++ "`"
  | nothingThere => "EOF while parsing a value"

/-- The keys that lead to a place, from the root; none for a key without a text of its own. -/
abbrev KeyPath := List (Option String)

def KeyPath.text (path : KeyPath) : String :=
  ".".intercalate (path.map fun key => key.getD "?")

structure Place where
  mark : Yaml.Mark
  path : KeyPath
  deriving DecidableEq, Repr

/-- Why a document is no configuration; the place is missing as long as none is known. -/
structure Misfit where
  complaint : Complaint
  place : Option Place
  deriving DecidableEq, Repr

namespace Misfit

def here (complaint : Complaint) (mark : Yaml.Mark) (path : KeyPath) : Misfit :=
  ⟨complaint, some ⟨mark, path⟩⟩

def placed (misfit : Misfit) (mark : Yaml.Mark) (path : KeyPath) : Misfit :=
  match misfit.place with
  | some _ => misfit
  | none => .here misfit.complaint mark path

/-- A place as text: line and column count from one, and the very start is not mentioned. -/
def markText (mark : Yaml.Mark) : String :=
  if mark.line = 0 && mark.column = 0 then ""
  else " at line " ++ decimal (mark.line + 1) ++ " column " ++ decimal (mark.column + 1)

def message (misfit : Misfit) : String :=
  match misfit.place with
  | none => misfit.complaint.message
  | some place =>
    (if place.path.isEmpty then "" else place.path.text ++ ": ") ++
      misfit.complaint.message ++ markText place.mark

end Misfit

end HostEngine
