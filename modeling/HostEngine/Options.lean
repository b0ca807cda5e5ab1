import HostEngine.Text.Octets
import HostEngine.Native.Call
/-!
What a session is started with: the library to load, and how the host engine is found and started
when it is a child.
-/
set_option autoImplicit false

namespace HostEngine

/-- How a host engine child is found and started. The search path is a colon-separated list that
takes the place of the environment's. -/
structure ChildOptions where
  executable : String
  searchPath : Option String
  scratchDirectory : Octets
  socketStem : String
  deriving DecidableEq, Repr

structure Options where
  library : String
  child : ChildOptions
  deriving DecidableEq, Repr

def defaultExecutable : String := "nv-hostengine"
def defaultScratchDirectory : String := "/tmp"
def defaultSocketStem : String := "dcgm"

def ChildOptions.default : ChildOptions :=
  ⟨defaultExecutable, none, .ofString defaultScratchDirectory, defaultSocketStem⟩

def Options.default : Options := ⟨Native.defaultLibrary, .default⟩

/-- The argument that tells a host engine to listen on the Unix socket named next. -/
def socketArgument : String := "--domain-socket"

/-- The argument that asks a running host engine to terminate. -/
def terminateArgument : String := "--term"

def version : String := "0.1.0"

end HostEngine
