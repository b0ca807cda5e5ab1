import HostEngine.Config.Basic
import HostEngine.Config.Misfit
import HostEngine.Yaml.Node
/-!
Configurations from documents. Sections are read entry by entry in the order of the text, so the
first entry that does not fit decides what is reported; keys that are not known are skipped.
-/
set_option autoImplicit false

namespace HostEngine.Config

open Yaml (Node Document Mark Style Properties Meaning)

/-- Reading ends in a value or in the first misfit. -/
abbrev Reading (α : Type) := Except Misfit α

def commonTag (name : String) : Octets := .ofString ("tag:yaml.org,2002:" ++ name)

def ownMark : UInt8 := 0x21

def foundAs (meaning : Meaning) (text : String) : Found :=
  match meaning with
  | .null => .nothing
  | .bool value => .bool value
  | .integer value => .integer value
  | .float value => .float value
  | .text => .text text

/-- The complaint that a scalar is not what was expected. A tag of the common schema that the text
does not bear out is complained about instead. -/
def scalarComplaint (tag : Option Octets) (style : Style) (text expected : String) : Complaint :=
  let plain := Complaint.wrongType (foundAs (Meaning.ofText text) text) expected
  let itself := Complaint.wrongType (.text text) expected
  match tag with
  | none => if style = .plain then plain else itself
  | some tag =>
    if tag = commonTag "bool" then
      match Meaning.bool? text with
      | some value => .wrongType (.bool value) expected
      | none => .wrongValue (.text text) "a boolean"
    else if tag = commonTag "int" then
      match Meaning.integer? text.toList with
      | some value => .wrongType (.integer value) expected
      | none => .wrongValue (.text text) "an integer"
    else if tag = commonTag "float" then
      match Meaning.float? text with
      | some value => .wrongType (.float value) expected
      | none => .wrongValue (.text text) "a float"
    else if tag = commonTag "null" then
      if Meaning.isNull text then .wrongType .nothing expected
      else .wrongValue (.text text) "null"
    else if tag.head? = some ownMark && style = .plain then plain
    else itself

def mismatch (path : KeyPath) (node : Node) (expected : String) : Misfit :=
  match node with
  | .scalar mark properties style text =>
    .here (scalarComplaint properties.tag style text expected) mark path
  | .sequence mark _ _ => .here (.wrongType .sequence expected) mark path
  | .mapping mark _ _ | .reference mark _ => .here (.wrongType .mapping expected) mark path

/-! ### Scalars -/

def readText (document : Document) (path : KeyPath) (expected : String) (node : Node) :
    Reading String :=
  match document.resolve node with
  | .scalar _ _ _ text => .ok text
  | other => .error (mismatch path other expected)

def readWord (document : Document) (path : KeyPath) (node : Node) : Reading UInt32 :=
  match document.resolve node with
  | .scalar mark properties style text =>
    let counts := style = .plain ||
      (style = .literal && properties.tag = some (commonTag "int"))
    match (if counts then Meaning.unsigned? UInt64.size text.toList else none) with
    | some n =>
      if n < UInt32.size then .ok (UInt32.ofNat n)
      else .error (.here (.wrongValue (.integer n) "u32") mark path)
    | none => .error (.here (scalarComplaint properties.tag style text "u32") mark path)
  | other => .error (mismatch path other "u32")

/-- Whether a node says that nothing is there. A scalar tagged as nothing must say so. -/
def readAbsence (node : Node) : Reading Bool :=
  match node with
  | .scalar _ properties style text =>
    if style ≠ .plain then .ok false
    else
      match properties.tag with
      | some tag =>
        if tag = commonTag "null" then
          if Meaning.isNull text then .ok true
          else .error ⟨.wrongValue (.text text) "null", none⟩
        else .ok false
      | none => .ok (text = "" || Meaning.isNull text)
  | .sequence .. | .mapping .. | .reference .. => .ok false

def readOptional {α : Type} (document : Document) (read : Node → Reading α) (node : Node) :
    Reading (Option α) := do
  let node := document.resolve node
  if ← readAbsence node then .ok none else (read node).map some

/-! ### Modes -/

def readModeName (name : String) : Reading Mode :=
  match Mode.ofDocumentName? name with
  | some mode => .ok mode
  | none => .error ⟨.unknownVariant name (Mode.all.flatMap Mode.documentNames), none⟩

/-- The name in a tag of the document's own, if it is text; a mark without a name is a name. -/
def ownTag? (tag : Option Octets) : Option String :=
  match tag with
  | some (mark :: name) =>
    if mark = ownMark then Octets.text? (if name = [] then [mark] else name) else none
  | _ => none

/-- A mode given by a tag must have nothing behind the tag. -/
def checkTagged (path : KeyPath) (node : Node) : Reading Unit :=
  match node with
  | .scalar mark _ style text =>
    if style = .plain && (text = "" || Meaning.isNull text) then .ok ()
    else .error (.here (.wrongValue (.text text) "null") mark path)
  | other => .error (mismatch path other "unit")

/-- What a mode is expected as where a collection stands. -/
def tagExpected : String := "a YAML tag starting with '!'"

def readMode (document : Document) (path : KeyPath) (node : Node) : Reading Mode :=
  let node := document.resolve node
  let tagged (name : String) : Reading Mode := do
    let mode ← readModeName name
    checkTagged path node
    .ok mode
  match node with
  | .scalar mark properties _ text =>
    match ownTag? properties.tag with
    | some name => tagged name
    | none => (readModeName text).mapError fun misfit => misfit.placed mark path
  | .sequence _ properties _ | .mapping _ properties _ =>
    match ownTag? properties.tag with
    | some name => tagged name
    | none => .error (mismatch path node tagExpected)
  | .reference _ _ => .error (mismatch path node tagExpected)

/-! ### Sections -/

def keyPath (path : KeyPath) (key : Node) : KeyPath :=
  match key with
  | .scalar _ _ _ text => path ++ [some text]
  | .sequence .. | .mapping .. | .reference .. => path ++ [none]

/-- Reads the entries of a section one after another into a draft of it. -/
def readEntries {σ : Type} (document : Document) (path : KeyPath)
    (take : σ → String → KeyPath → Node → Reading σ) :
    σ → List (Node × Node) → Reading σ
  | draft, [] => .ok draft
  | draft, (key, value) :: rest => do
    let name ← readText document path "field identifier" key
    let draft ← take draft name (keyPath path key) value
    readEntries document path take draft rest

/-- Reads a section. A scalar without text counts as a section without entries. -/
def readSection {σ α : Type} (document : Document) (path : KeyPath) (expected : String)
    (take : σ → String → KeyPath → Node → Reading σ) (finish : σ → Reading α) (empty : σ)
    (node : Node) : Reading α :=
  let node := document.resolve node
  let read (mark : Mark) (entries : List (Node × Node)) : Reading α :=
    ((readEntries document path take empty entries).bind finish).mapError
      fun misfit => misfit.placed mark path
  match node with
  | .mapping mark _ entries => read mark entries
  | .scalar mark _ style text =>
    if style = .plain && text = "" then read mark [] else .error (mismatch path node expected)
  | .sequence .. | .reference .. => .error (mismatch path node expected)

/-- Sets a field of a draft that is not set yet. -/
def once {α : Type} (name : String) (field : Option α) (read : Reading α) : Reading (Option α) :=
  match field with
  | some _ => .error ⟨.duplicateField name, none⟩
  | none => read.map some

def readLibrary (document : Document) (path : KeyPath) (node : Node) : Reading String :=
  readSection document path "struct LibraryConfig"
    (fun draft name path value =>
      if name = "name" then once name draft (readText document path "a string" value)
      else .ok draft)
    (fun draft => .ok (draft.getD Native.defaultLibrary)) none node

/-- A standalone section as far as it is read. -/
structure StandaloneDraft where
  address : Option String
  flag : Option UInt32

def readStandalone (document : Document) (path : KeyPath) (node : Node) :
    Reading StandaloneConfig :=
  readSection document path "struct StandaloneConfig"
    (fun (draft : StandaloneDraft) name path value =>
      if name = "address" then do
        let address ← once name draft.address (readText document path "a string" value)
        .ok { draft with address }
      else if name = "address_is_unix_socket" then do
        let flag ← once name draft.flag (readWord document path value)
        .ok { draft with flag }
      else .ok draft)
    (fun draft =>
      match draft.address with
      | some address => .ok ⟨address, draft.flag.getD 0⟩
      | none => .error ⟨.missingField "address", none⟩)
    ⟨none, none⟩ node

structure ChildDraft where
  executable : Option String
  searchPath : Option (Option String)
  scratchDirectory : Option String
  socketStem : Option String

def readChild (document : Document) (path : KeyPath) (node : Node) : Reading ChildOptions :=
  readSection document path "struct HostengineConfig"
    (fun (draft : ChildDraft) name path value =>
      if name = "executable" then do
        let executable ← once name draft.executable (readText document path "a string" value)
        .ok { draft with executable }
      else if name = "search_path" then do
        let searchPath ← once name draft.searchPath
          (readOptional document (readText document path "a string") value)
        .ok { draft with searchPath }
      else if name = "scratch_directory" then do
        let scratchDirectory ← once name draft.scratchDirectory
          (readText document path "path string" value)
        .ok { draft with scratchDirectory }
      else if name = "socket_prefix" then do
        let socketStem ← once name draft.socketStem (readText document path "a string" value)
        .ok { draft with socketStem }
      else .ok draft)
    (fun draft => .ok {
      executable := draft.executable.getD defaultExecutable
      searchPath := draft.searchPath.getD none
      scratchDirectory := .ofString (draft.scratchDirectory.getD defaultScratchDirectory)
      socketStem := draft.socketStem.getD defaultSocketStem })
    ⟨none, none, none, none⟩ node

structure Draft where
  mode : Option Mode
  logLevel : Option String
  library : Option String
  standalone : Option (Option StandaloneConfig)
  child : Option ChildOptions

def Draft.empty : Draft := ⟨none, none, none, none, none⟩

def Draft.take (document : Document) (draft : Draft) (name : String) (path : KeyPath)
    (value : Node) : Reading Draft :=
  if name = "mode" then do
    let mode ← once name draft.mode (readMode document path value)
    .ok { draft with mode }
  else if name = "log_level" then do
    let logLevel ← once name draft.logLevel (readText document path "a string" value)
    .ok { draft with logLevel }
  else if name = "library" then do
    let library ← once name draft.library (readLibrary document path value)
    .ok { draft with library }
  else if name = "standalone" then do
    let standalone ← once name draft.standalone
      (readOptional document (readStandalone document path) value)
    .ok { draft with standalone }
  else if name = "hostengine" then do
    let child ← once name draft.child (readChild document path value)
    .ok { draft with child }
  else .ok draft

/-- The configuration of a draft: the mode must be given, the rest has defaults. -/
def Draft.finish (draft : Draft) : Reading Config :=
  match draft.mode with
  | none => .error ⟨.missingField "mode", none⟩
  | some mode => .ok {
      mode
      logLevel := draft.logLevel.getD defaultLogLevel
      library := draft.library.getD Native.defaultLibrary
      standalone := draft.standalone.getD none
      child := draft.child.getD .default }

def ofDocument (document : Document) : Reading Config :=
  match document.root with
  | some root =>
    readSection document [] "struct LifecycleConfig" (Draft.take document) Draft.finish .empty root
  | none => Draft.empty.finish.mapError fun misfit => misfit.placed document.finish []

def modeOfDocument (document : Document) : Reading Mode :=
  match document.root with
  | some root => readMode document [] root
  | none => .error ⟨.nothingThere, none⟩

end HostEngine.Config
