import HostEngine.Mode
import HostEngine.Options
/-!
The configuration of a session, and what a session is started with because of it.
-/
set_option autoImplicit false

namespace HostEngine

/-- The address of a host engine that already runs; the flag is nonzero when it is the path of a
Unix socket. -/
structure StandaloneConfig where
  address : String
  flag : UInt32
  deriving DecidableEq, Repr

/-- The configuration of a session. The standalone section must be there in standalone mode. -/
structure Config where
  mode : Mode
  logLevel : String
  library : String
  standalone : Option StandaloneConfig
  child : ChildOptions
  deriving DecidableEq, Repr

namespace Config

def defaultLogLevel : String := "info"

def ofMode (mode : Mode) : Config :=
  ⟨mode, defaultLogLevel, Native.defaultLibrary, none, .default⟩

def options (config : Config) : Options := ⟨config.library, config.child⟩

/-- The arguments a session is started with: address and flag in standalone mode, else none. -/
def startupArgs (config : Config) : List String :=
  match config.mode, config.standalone with
  | .standalone, some standalone => [standalone.address, decimal standalone.flag.toNat]
  | _, _ => []

end Config

end HostEngine
