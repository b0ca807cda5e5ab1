import HostEngine.Procedure
import HostEngine.Program.Failure
/-!
Finding, starting, running and signalling programs, with the failures these report.
-/
set_option autoImplicit false

namespace HostEngine.Program

open Procedure

def emptyName : Failure := .configuration "validation" "Executable name cannot be empty"

/-- Finds a program by its name. Without a search list the environment's is used. -/
def find (name : String) (searchPath : Option String) : Procedure (Except Failure Octets) := do
  if name.isEmpty then return .error emptyName
  match ← perform (.find name searchPath) with
  | .ok path => return .ok path
  | .error reason => return .error (.notFound name reason)

def spawn (program : Octets) (arguments : List Octets) : Procedure (Except Failure UInt32) := do
  match ← perform (.spawn program arguments) with
  | .error fault => return .error (.spawn program.shown fault.text)
  | .ok pid =>
    log .debug .program <| "Spawned " ++ program.shown ++ " (PID: " ++ decimal pid.toNat ++
      ") in its own process group"
    return .ok pid

def runToEnd (program : Octets) (arguments : List Octets) : Procedure (Except Failure Unit) := do
  match ← perform (.runToEnd program arguments) with
  | .error fault => return .error (.command program.shown fault.text)
  | .ok exit =>
    if exit.isSuccess then return .ok ()
    else return .error (.command program.shown exit.text)

/-- The number that the kernel takes a process number for. -/
def kernelPid (pid : UInt32) : Int32 := pid.toInt32

def forceKill (pid : UInt32) : Procedure (Except Failure Unit) := do
  match ← perform (.signal (kernelPid pid) (some .kill)) with
  | .ok () => return .ok ()
  | .error errno => return .error (.signal pid errno.labelled)

/-- What an answer to a question for a process means; one that may not be signalled exists. -/
def existence (pid : UInt32) : Except Kernel.Errno Unit → Except Failure Bool
  | .ok () => .ok true
  | .error errno =>
    if errno = .noProcess then .ok false
    else if errno = .notPermitted then .ok true
    else .error (.configuration (decimal pid.toNat) ("Failed to check process: " ++ errno.labelled))

/-- Whether a process exists; one that ended but was not waited for still does. -/
def processExists (pid : UInt32) : Procedure (Except Failure Bool) := do
  return existence pid (← perform (.signal (kernelPid pid) none))

end HostEngine.Program
