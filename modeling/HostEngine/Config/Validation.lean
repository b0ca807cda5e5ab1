import HostEngine.Kernel.Fault
import HostEngine.Config.Reading
import HostEngine.Yaml.Document
/-!
Which configurations a session may be started with, and loading one from a document or a file. A
section is judged only in the mode that uses it.
-/
set_option autoImplicit false

namespace HostEngine.Config

inductive Failure where
  | logLevel (text : String)
  | libraryEmpty
  | standaloneMissing
  | addressEmpty
  | addressNul
  | executableEmpty
  | socketStemPath (text : String)
  /-- The document's text is not well formed. -/
  | malformed
  /-- The document is well formed but holds no configuration. -/
  | misfit (reason : Misfit)
  | unreadable (path : Octets) (fault : Kernel.Fault)
  | nothingGiven
  deriving DecidableEq, Repr

namespace Failure

def message : Failure → String
  | logLevel text =>
    "Invalid log level: " ++ text ++ ", must be one of: trace, debug, info, warn, error"
  | libraryEmpty => "Library name cannot be empty"
  | standaloneMissing => "standalone configuration is required for standalone mode"
  | addressEmpty => "Standalone address cannot be empty"
  | addressNul => "Standalone address contains a NUL byte"
  | executableEmpty => "Host engine executable cannot be empty"
  | socketStemPath text => "Socket prefix must be a file name, got: " ++ text
  | malformed | misfit _ => "Failed to parse YAML configuration"
  | unreadable path _ => "Failed to read config file: " ++ path.shown
  | nothingGiven => "Either --config or --mode is required"

/-- The cause behind a failure, if it is told. Where a text is not well formed, what its reader says of
that is left out. -/
def cause? : Failure → Option String
  | misfit reason => some reason.message
  | unreadable _ fault => some fault.text
  | logLevel _ | libraryEmpty | standaloneMissing | addressEmpty | addressNul | executableEmpty
  | socketStemPath _ | malformed | nothingGiven => none

end Failure

/-- The names of log levels, compared without regard to case. -/
def isLogLevel (text : String) : Bool :=
  let lower := String.ofList (text.toList.map Char.toLower)
  lower = "trace" || lower = "debug" || lower = "info" || lower = "warn" || lower = "error"

def validateStandalone (standalone : StandaloneConfig) : Except Failure Unit :=
  if standalone.address = "" then .error .addressEmpty
  else if standalone.address.toList.contains '\x00' then .error .addressNul
  else .ok ()

/-- A host engine section must name a program, and its socket a file of the scratch directory. -/
def validateChild (child : ChildOptions) : Except Failure Unit :=
  if child.executable = "" then .error .executableEmpty
  else if child.socketStem.toList.contains '/' then .error (.socketStemPath child.socketStem)
  else .ok ()

/-- The section that the mode uses must be there and must be valid. -/
def validateSection (config : Config) : Except Failure Unit :=
  match config.mode, config.standalone with
  | .embedded, _ => .ok ()
  | .standalone, none => .error .standaloneMissing
  | .standalone, some standalone => validateStandalone standalone
  | .managedChild, _ => validateChild config.child

/-- Whether a session may be started with a configuration; the first rule it breaks is reported. -/
def validate (config : Config) : Except Failure Unit :=
  if !isLogLevel config.logLevel then .error (.logLevel config.logLevel)
  else if config.library = "" then .error .libraryEmpty
  else config.validateSection

def validated (config : Config) : Except Failure Config :=
  config.validate.map fun _ => config

def parse (text : String) : Except Failure Config :=
  match Yaml.Document.parse? text with
  | none => .error .malformed
  | some document => (ofDocument document).mapError .misfit

def load (text : String) : Except Failure Config :=
  (parse text).bind validated

def notText : Kernel.Fault := .stated "stream did not contain valid UTF-8"

/-- The valid configuration in a file, given what reading the file yields. -/
def loadFile (path : Octets) (content : Except Kernel.Fault Octets) : Except Failure Config :=
  match content with
  | .error fault => .error (.unreadable path fault)
  | .ok octets =>
    match octets.text? with
    | none => .error (.unreadable path notText)
    | some text => load text

end HostEngine.Config
