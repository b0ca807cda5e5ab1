import HostEngine.Text.Blank
/-!
How a client reaches the host engine, and the names of the three modes. A name is read without
regard to surrounding blanks, ASCII case and the choice between hyphen and underscore; it is written
in one way.
-/
set_option autoImplicit false

namespace HostEngine

/-- How a client reaches the host engine: inside this process, by a connection to one that already
runs, or by a connection to a child of its own. -/
inductive Mode where
  | embedded
  | standalone
  | managedChild
  deriving DecidableEq, Repr

namespace Mode

def all : List Mode := [.embedded, .standalone, .managedChild]

def name : Mode → String
  | .embedded => "embedded"
  | .standalone => "standalone"
  | .managedChild => "managed_child"

def ofName? (name : String) : Option Mode :=
  match name with
  | "embedded" => some .embedded
  | "standalone" => some .standalone
  | "managed_child" => some .managedChild
  | "start_hostengine" => some .managedChild
  | _ => none

/-- A character of a name in lower case, and an underscore for a hyphen. -/
def canonicalChar (c : Char) : Char := if c = '-' then '_' else c.toLower

/-- A name without surrounding blanks, in lower case and with underscores only. -/
def canonicalName (text : String) : String :=
  String.ofList ((trimBlanks text.toList).map canonicalChar)

def parse? (text : String) : Option Mode :=
  ofName? (canonicalName text)

def unknownMessage (text : String) : String :=
  "unknown mode '" ++ text ++ "', expected one of: embedded, standalone, managed_child"

structure Unknown where
  text : String
  deriving DecidableEq, Repr

def Unknown.message (unknown : Unknown) : String := unknownMessage unknown.text

/-- The mode that a name stands for in any of its spellings; any other text is given back. -/
def parse (text : String) : Except Unknown Mode :=
  match parse? text with
  | some mode => .ok mode
  | none => .error ⟨text⟩

/-! ### In documents -/

/-- The name that a document is written with. -/
def documentName : Mode → String
  | .embedded => "embedded"
  | .standalone => "standalone"
  | .managedChild => "managed_child"

/-- Names that documents used to give. -/
def earlierNames : Mode → List String
  | .embedded | .standalone => []
  | .managedChild => ["start_hostengine"]

def documentNames (mode : Mode) : List String := mode.documentName :: mode.earlierNames

/-- The mode that a document gives; its names are exact. -/
def ofDocumentName? (name : String) : Option Mode := all.find? (name ∈ ·.documentNames)

end Mode

end HostEngine
