import HostEngine.Kernel.Fault
import HostEngine.Native.Status
/-!
Why a session could not be started or could not be shut down. Every kind names the step that failed;
the wording of each stands in one place.
-/
set_option autoImplicit false

namespace HostEngine

inductive NativeStep where
  | init
  | start
  | connect
  | disconnect
  | stop
  | shutdown
  deriving DecidableEq, Repr

def NativeStep.message : NativeStep → String
  | init => "error initializing DCGM: "
  | start => "error starting nv-hostengine: "
  | connect => "error connecting to nv-hostengine: "
  | disconnect => "error disconnecting from nv-hostengine: "
  | stop => "error stopping nv-hostengine: "
  | shutdown => "error shutting down DCGM: "

inductive Failure where
  /-- The library, or a symbol of it, was not found. -/
  | libraryNotFound (library reason : String)
  | libraryUnload (library reason : String)
  | arguments (message : String)
  | executableNotFound (executable reason : String)
  /-- No file could be created to reserve the socket path. -/
  | scratchFile (directory : Octets) (fault : Kernel.Fault)
  | spawn (executable reason : String)
  | native (step : NativeStep) (failure : Native.Failure)
  /-- The program's own request to terminate failed. -/
  | terminationCommand (executable reason : String)
  | forceKill (pid : UInt32) (reason : String)
  deriving DecidableEq, Repr

namespace Failure

def message : Failure → String
  | libraryNotFound library reason => library ++ " not found: " ++ reason
  | libraryUnload library reason => "error unloading " ++ library ++ ": " ++ reason
  | arguments message => message
  | executableNotFound executable reason => "error finding " ++ executable ++ ": " ++ reason
  | scratchFile directory fault =>
    "error creating temporary file in " ++ directory.shown ++ " directory: " ++ fault.text
  | spawn executable reason => "error fork-execing " ++ executable ++ ": " ++ reason
  | native step failure => step.message ++ failure.text
  | terminationCommand executable reason =>
    "error terminating " ++ executable ++ ": " ++ reason
  | forceKill pid reason =>
    "error killing host engine process " ++ decimal pid.toNat ++ ": " ++ reason

def native? : Failure → Option Native.Failure
  | native _ failure => some failure
  | libraryNotFound _ _ | libraryUnload _ _ | arguments _ | executableNotFound _ _
  | scratchFile _ _ | spawn _ _ | terminationCommand _ _ | forceKill _ _ => none

def cause? : Failure → Option String
  | native _ failure => some failure.text
  | scratchFile _ fault => some fault.text
  | libraryNotFound _ _ | libraryUnload _ _ | arguments _ | executableNotFound _ _
  | spawn _ _ | terminationCommand _ _ | forceKill _ _ => none

end Failure

end HostEngine
