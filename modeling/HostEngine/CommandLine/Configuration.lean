import HostEngine.CommandLine.Arguments
import HostEngine.Config.Validation
/-!
The configuration that a command line asks for: a file's, or a mode's defaults, with the options
given on the command line in the place of what stands there.
-/
set_option autoImplicit false

namespace HostEngine.CommandLine.Arguments

/-- The configuration to begin with: the named file's, which must be valid, or the mode's defaults.
The reading function gives a file's content. -/
def base (arguments : Arguments) (read : Octets → Except Kernel.Fault Octets) :
    Except Config.Failure Config :=
  match arguments.config, arguments.mode with
  | some path, _ => Config.loadFile (.ofString path) (read (.ofString path))
  | none, some mode => .ok (.ofMode mode)
  | none, none => .error .nothingGiven

def standalone? (arguments : Arguments) : Option StandaloneConfig :=
  arguments.address.map fun address => ⟨address, if arguments.unixSocket then 1 else 0⟩

def override (arguments : Arguments) (config : Config) : Config :=
  { config with
    mode := arguments.mode.getD config.mode
    standalone := arguments.standalone? <|> config.standalone }

def configuration (arguments : Arguments) (read : Octets → Except Kernel.Fault Octets) :
    Except Config.Failure Config :=
  (arguments.base read).bind fun config => (arguments.override config).validated

end HostEngine.CommandLine.Arguments
