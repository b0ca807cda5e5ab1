import HostEngine.Mode
import HostEngine.Options
import HostEngine.Text.Digits
/-!
The command line of the control program. Arguments are read from left to right; an option without an
attached value stays open for the word behind it, and its value is judged when the next option
begins or the arguments end, so a word that is no argument at all is reported before a bad value in
front of it.
-/
set_option autoImplicit false

namespace HostEngine.CommandLine

structure Arguments where
  config : Option String
  mode : Option Mode
  address : Option String
  unixSocket : Bool
  debug : Bool
  runDuration : Option UInt64
  deriving DecidableEq, Repr

def Arguments.empty : Arguments := ⟨none, none, none, false, false, none⟩

inductive Stop where
  | unknownArgument
  | tooManyValues
  | missingValue
  | repeated
  | badValue
  | help
  | version
  deriving DecidableEq, Repr

def Stop.message : Stop → String
  | .unknownArgument => "error: unexpected argument found"
  | .tooManyValues => "error: unexpected value for an option that takes none"
  | .missingValue => "error: a value is required for an option"
  | .repeated => "error: an option cannot be used multiple times"
  | .badValue => "error: invalid value for an option"
  | .help => "Options: -c, --config <FILE>; -m, --mode <MODE>; -a, --address <ADDRESS>; " ++
      "--unix-socket; -d, --debug; --run-duration <SECONDS>; -h, --help; -V, --version"
  | .version => "DCGM host engine control " ++ HostEngine.version

/-- An option that takes a value. -/
inductive Valued where
  | config
  | mode
  | address
  | runDuration
  deriving DecidableEq, Repr

/-- An option that takes none. -/
inductive Switch where
  | unixSocket
  | debug
  | help
  | version
  deriving DecidableEq, Repr

inductive Key where
  | valued (option : Valued)
  | switch (switch : Switch)
  deriving DecidableEq, Repr

namespace Key

def ofLong? (name : String) : Option Key :=
  match name with
  | "config" => some (.valued .config)
  | "mode" => some (.valued .mode)
  | "address" => some (.valued .address)
  | "run-duration" => some (.valued .runDuration)
  | "unix-socket" => some (.switch .unixSocket)
  | "debug" => some (.switch .debug)
  | "help" => some (.switch .help)
  | "version" => some (.switch .version)
  | _ => none

def ofShort? (name : Char) : Option Key :=
  match name with
  | 'c' => some (.valued .config)
  | 'm' => some (.valued .mode)
  | 'a' => some (.valued .address)
  | 'd' => some (.switch .debug)
  | 'h' => some (.switch .help)
  | 'V' => some (.switch .version)
  | _ => none

end Key

namespace Arguments

/-- The arguments with an option's value, which must be the option's first. -/
def give (arguments : Arguments) (option : Valued) (value : String) : Except Stop Arguments :=
  match option with
  | .config =>
    if arguments.config.isSome then .error .repeated
    else .ok { arguments with config := some value }
  | .mode =>
    if arguments.mode.isSome then .error .repeated
    else
      match Mode.parse? value with
      | some mode => .ok { arguments with mode := some mode }
      | none => .error .badValue
  | .address =>
    if arguments.address.isSome then .error .repeated
    else .ok { arguments with address := some value }
  | .runDuration =>
    if arguments.runDuration.isSome then .error .repeated
    else
      match readUnsigned UInt64.size value with
      | .ok seconds => .ok { arguments with runDuration := some (UInt64.ofNat seconds) }
      | .error _ => .error .badValue

def turnOn (arguments : Arguments) (switch : Switch) : Except Stop Arguments :=
  match switch with
  | .unixSocket =>
    if arguments.unixSocket then .error .repeated else .ok { arguments with unixSocket := true }
  | .debug => if arguments.debug then .error .repeated else .ok { arguments with debug := true }
  | .help => .error .help
  | .version => .error .version

end Arguments

/-- How far the command line is read: the arguments so far, and an option whose value is not judged
yet, with that value if it has one. -/
structure Progress where
  arguments : Arguments
  pending : Option (Valued × Option String)
  deriving DecidableEq, Repr

namespace Progress

def settle (progress : Progress) : Except Stop Arguments :=
  match progress.pending with
  | none => .ok progress.arguments
  | some (_, none) => .error .missingValue
  | some (option, some value) => progress.arguments.give option value

def takeValued (progress : Progress) (option : Valued) (attached : Option String) :
    Except Stop Progress :=
  match progress.settle with
  | .error stop => .error stop
  | .ok arguments =>
    match attached with
    | none => .ok ⟨arguments, some (option, none)⟩
    | some value => (arguments.give option value).map (⟨·, none⟩)

def takeSwitch (progress : Progress) (switch : Switch) : Except Stop Progress :=
  progress.settle.bind fun arguments => (arguments.turnOn switch).map (⟨·, none⟩)

def takeLong (progress : Progress) (word : List Char) : Except Stop Progress :=
  let attached := match word.dropWhile (· ≠ '=') with
    | [] => none
    | _ :: value => some (String.ofList value)
  match Key.ofLong? (String.ofList (word.takeWhile (· ≠ '='))), attached with
  | none, _ => .error .unknownArgument
  | some (.valued option), attached => progress.takeValued option attached
  | some (.switch switch), none => progress.takeSwitch switch
  | some (.switch _), some _ => .error .tooManyValues

/-- The value attached to a short option by what stands behind its name, with or without an equals
sign; none if nothing does. -/
def attachedValue : List Char → Option String
  | [] => none
  | '=' :: value => some (String.ofList value)
  | value => some (String.ofList value)

/-- Takes short options that share one hyphen; one that takes a value takes all that is left. -/
def takeShort (progress : Progress) : List Char → Except Stop Progress
  | [] => .ok progress
  | name :: rest =>
    match Key.ofShort? name with
    | none => .error .unknownArgument
    | some (.valued option) => progress.takeValued option (attachedValue rest)
    | some (.switch switch) => (progress.takeSwitch switch).bind (takeShort · rest)

def takeWord (progress : Progress) (word : String) : Except Stop Progress :=
  match progress.pending with
  | some (option, none) => .ok ⟨progress.arguments, some (option, some word)⟩
  | _ => .error .unknownArgument

def take (progress : Progress) (argument : String) : Except Stop Progress :=
  match argument.toList with
  | '-' :: '-' :: word => progress.takeLong word
  | '-' :: name :: rest => progress.takeShort (name :: rest)
  | _ => progress.takeWord argument

/-- Reads the arguments that are left. Behind a separator only words without a meaning can stand, so
there must be none. -/
def read (progress : Progress) : List String → Except Stop Arguments
  | [] => progress.settle
  | "--" :: [] => progress.settle
  | "--" :: _ :: _ => .error .unknownArgument
  | argument :: rest => (progress.take argument).bind (read · rest)

end Progress

def Arguments.read (arguments : List String) : Except Stop Arguments :=
  Progress.read ⟨.empty, none⟩ arguments

end HostEngine.CommandLine
