import HostEngine.Native.Exported
import HostEngine.Machine.Files
/-!
Native libraries on a machine. A library that is loaded is held until it is closed or let go. The
system counts how often each file is open and maps it while the count is positive; a stand-in, which
takes the place of library files and fails on demand, counts its instances. Both keep a journal, each
of what it sees.
-/
set_option autoImplicit false

namespace HostEngine.Machine

inductive Note where
  | load (name : String)
  | init
  | shutdown
  | startEmbedded (operation : Native.Operation)
  | stopEmbedded (raw : UInt64)
  /-- The address is noted as text; of the parameters, only two are noted. -/
  | connect (address : String) (unixSocket version : UInt32)
  | disconnect (raw : UInt64)
  | unload
  deriving DecidableEq, Repr

def Note.ofCall : Native.Call → Note
  | .init => .init
  | .shutdown => .shutdown
  | .startEmbedded operation => .startEmbedded operation
  | .stopEmbedded handle => .stopEmbedded handle.raw
  | .connect address params => .connect address.shown params.unixSocket params.version
  | .disconnect handle => .disconnect handle.raw

/-- An entry of the journal of native activity: a stand-in's note, or what happens to a library file.
Asking for the text of a status is not recorded. -/
inductive Record where
  | noted (note : Note)
  | mapped (name : String)
  | entered (call : Native.ExportedCall)
  | unmapped
  deriving DecidableEq, Repr

/-- A place where a stand-in can be told to fail. -/
inductive Point where
  | call (function : Native.Call.Function)
  | unload
  deriving DecidableEq, Repr

def Point.name : Point → String
  | .call .init => "Init"
  | .call .shutdown => "Shutdown"
  | .call .startEmbedded => "StartEmbedded"
  | .call .stopEmbedded => "StopEmbedded"
  | .call .connect => "Connect"
  | .call .disconnect => "Disconnect"
  | .unload => "Unload"

def Point.all : List Point := Native.Call.Function.all.map .call ++ [.unload]

inductive Source where
  /-- A stand-in, which may be missing, with the codes it fails with. -/
  | standIn (missing : Bool) (failures : List (Point × Int32))
  /-- Library files, whose functions return certain codes, a handle and descriptions. -/
  | files (handle : Native.Handle) (codes : List (Native.Call.Function × Int32))
      (descriptions : List (Int32 × Octets))
  deriving Repr

structure Holding where
  library : Native.Library
  file : Path
  deriving DecidableEq, Repr

structure Natives where
  source : Source
  /-- What is loaded and neither closed nor let go. -/
  held : List Holding
  /-- The instances of the stand-in that are not gone. -/
  live : Nat
  /-- How often each file that is mapped is open. -/
  mapped : List (Path × Nat)
  journal : List Record
  next : Nat
  deriving Repr

namespace Natives

def fresh (source : Source) : Natives := ⟨source, [], 0, [], [], 0⟩

def standInHandle : Native.Handle := ⟨0xD0C6⟩

def note (natives : Natives) (record : Record) : Natives :=
  { natives with journal := natives.journal ++ [record] }

def openCount (natives : Natives) (file : Path) : Nat := (natives.mapped.lookup file).getD 0

def isMapped (natives : Natives) (file : Path) : Bool := natives.openCount file ≠ 0

def setOpenCount (natives : Natives) (file : Path) (count : Nat) : Natives :=
  let others := natives.mapped.filter fun (other, _) => other ≠ file
  { natives with mapped := if count = 0 then others else (file, count) :: others }

/-- Opens a file, and maps it if it is not mapped yet. -/
def openMapped (natives : Natives) (name : String) (file : Path) : Natives :=
  let opened := natives.setOpenCount file (natives.openCount file + 1)
  if natives.isMapped file then opened else opened.note (.mapped name)

/-- Closes a file, and unmaps it if nothing has it open any more. -/
def closeMapped (natives : Natives) (file : Path) : Natives :=
  let closed := natives.setOpenCount file (natives.openCount file - 1)
  if closed.isMapped file then closed else closed.note .unmapped

def hold (natives : Natives) (name : String) (file : Path) : Natives × Native.Library :=
  let library : Native.Library := ⟨natives.next, name⟩
  ({ natives with held := natives.held ++ [⟨library, file⟩], next := natives.next + 1 }, library)

def letGo (natives : Natives) (library : Native.Library) : Natives :=
  { natives with held := natives.held.filter (·.library ≠ library) }

/-! ### Loading -/

def missingMessage : String := "cannot open shared object file: No such file or directory"

structure Setting where
  files : Files
  directory : Directory
  searched : List Octets

def headerSize : Nat := 64

def openFile (setting : Setting) (name : Octets) : Except String (Path × List String) :=
  match setting.files.find setting.directory name with
  | .error errno =>
    .error (name.shown ++ ": cannot open shared object file: " ++ errno.description)
  | .ok (_, .directory) =>
    .error (name.shown ++ ": cannot read file data: " ++ Kernel.Errno.isDirectory.description)
  | .ok (file, .library symbols) => .ok (file, symbols)
  | .ok (_, .file _ content) =>
    if content.length < headerSize then .error (name.shown ++ ": file too short")
    else .error (name.shown ++ ": invalid ELF header")
  | .ok (_, .link _) | .ok (_, .program _) | .ok (_, .sink) =>
    .error (name.shown ++ ": invalid ELF header")

def isThere (setting : Setting) (name : Octets) : Bool :=
  match setting.files.find setting.directory name with
  | .ok _ => true
  | .error _ => false

/-- The file name that a library's name stands for: itself if it has a slash, else the first hit in
the searched directories. -/
def fileName (setting : Setting) (name : Octets) : Octets :=
  if name.contains slash then name
  else
    let candidates := setting.searched.map fun entry => entry ++ slash :: name
    (candidates.find? (isThere setting)).getD name

/-- The first of the symbols a library needs that is not among the given ones. -/
def missingSymbol? (symbols : List String) : Option String :=
  Native.symbols.find? fun symbol => !symbols.contains symbol

def nulInName : String := "could not create a C string from bytes"

/-- Opens a library file and resolves its symbols. The file stays mapped only if all are there. -/
def loadFile (natives : Natives) (setting : Setting) (name : String) :
    Natives × Except String Native.Library :=
  let octets := Octets.ofString name
  let fileName := fileName setting octets
  if octets.hasNul then (natives, .error nulInName)
  else
    match openFile setting fileName with
    | .error reason => (natives, .error reason)
    | .ok (file, symbols) =>
      let opened := natives.openMapped name file
      match missingSymbol? symbols with
      | some symbol =>
        (opened.closeMapped file,
          .error ("missing symbol: " ++ fileName.shown ++ ": undefined symbol: " ++ symbol))
      | none =>
        let (natives, library) := opened.hold name file
        (natives, .ok library)

def load (natives : Natives) (setting : Setting) (name : String) :
    Natives × Except String Native.Library :=
  match natives.source with
  | .standIn missing _ =>
    if missing then (natives, .error missingMessage)
    else
      let (natives, library) := (natives.note (.noted (.load name))).hold name []
      ({ natives with live := natives.live + 1 }, .ok library)
  | .files _ _ _ => natives.loadFile setting name

/-! ### Calling -/

def failure? (failures : List (Point × Int32)) (point : Point) : Option Native.Failure :=
  (failures.lookup point).map fun code => ⟨code, "mock " ++ point.name ++ " failure"⟩

def reply (source : Source) (call : Native.Call) : Except Native.Failure call.Value :=
  match source with
  | .standIn _ failures =>
    match failure? failures (.call call.function) with
    | some failure => .error failure
    | none => .ok (call.value standInHandle)
  | .files handle codes descriptions =>
    let status : Native.Status := ⟨(codes.lookup call.function).getD 0⟩
    match status.check fun status => (descriptions.lookup status.code).map Octets.shown with
    | .error failure => .error failure
    | .ok () => .ok (call.value handle)

def record (source : Source) (call : Native.Call) : Record :=
  match source with
  | .standIn _ _ => .noted (.ofCall call)
  | .files _ _ _ => .entered call.exported

def call (natives : Natives) (call : Native.Call) :
    Natives × Except Native.Failure call.Value :=
  (natives.note (record natives.source call), reply natives.source call)

/-! ### Closing -/

def dropInstance (natives : Natives) (library : Native.Library) : Natives :=
  { natives.letGo library with live := natives.live - 1 }

def dropOpened (natives : Natives) (library : Native.Library) : Natives :=
  match natives.held.find? (·.library = library) with
  | none => natives
  | some holding => (natives.letGo library).closeMapped holding.file

def discard (natives : Natives) (library : Native.Library) : Natives :=
  match natives.source with
  | .standIn _ _ => natives.dropInstance library
  | .files _ _ _ => natives.dropOpened library

/-- Closes a library and reports whether that succeeded; it is gone in any case. -/
def unload (natives : Natives) (library : Native.Library) : Natives × Except String Unit :=
  match natives.source with
  | .standIn _ failures =>
    let after := (natives.note (.noted .unload)).dropInstance library
    match failure? failures .unload with
    | some failure => (after, .error failure.text)
    | none => (after, .ok ())
  | .files _ _ _ => (natives.dropOpened library, .ok ())

def setFailure (natives : Natives) (point : Point) (code : Int32) : Natives :=
  match natives.source with
  | .standIn missing failures =>
    { natives with source := .standIn missing ((point, code) :: failures) }
  | .files _ _ _ => natives

def setCode (natives : Natives) (function : Native.Call.Function) (code : Int32) : Natives :=
  match natives.source with
  | .standIn _ _ => natives
  | .files handle codes descriptions =>
    { natives with source := .files handle ((function, code) :: codes) descriptions }

end Natives

end HostEngine.Machine
