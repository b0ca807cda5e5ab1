import HostEngine.Options
import HostEngine.Failure
import HostEngine.Program.Execution
import HostEngine.Session.Basic
/-!
Shutting a session down, or dropping it. Shutdown reverses what the start did, in order, and stops
at the first failure; the reserved socket path is removed and the library closed in any case.
-/
set_option autoImplicit false

namespace HostEngine.Session

open Procedure

/-- Closes a library; a failure is only logged. -/
def release (library : Native.Library) : Procedure Unit := do
  match ← perform (.unload library) with
  | .ok _ => log .debug .session ("Unloaded " ++ library.name)
  | .error reason => log .warn .session (Failure.libraryUnload library.name reason).message

def reap (child : Child) : Procedure Unit := do
  match ← perform (.wait child.pid) with
  | .ok exit =>
    log .debug .managedChild <| "Host engine (PID: " ++ decimal child.pid.toNat ++ ") exited: " ++
      exit.text
  | .error fault =>
    log .warn .managedChild <| "Failed to reap host engine (PID: " ++ decimal child.pid.toNat ++
      "): " ++ fault.text

/-- Removes the path reserved for a child's socket; one that is gone already is no failure. -/
def removeSocket (child : Child) : Procedure Unit := do
  match ← perform (.remove child.socketPath) with
  | .ok _ => log .debug .managedChild ("Removed socket path " ++ child.socketPath.shown)
  | .error fault =>
    if fault.isMissing then
      log .debug .managedChild ("Socket path " ++ child.socketPath.shown ++ " already removed")
    else
      log .warn .managedChild <|
        "Failed to remove socket path " ++ child.socketPath.shown ++ ": " ++ fault.text

/-- Asks a child to terminate, then kills it and waits for it. A child that cannot be asked is left
alone. -/
def terminate (child : Child) : Procedure (Except Failure Unit) := do
  match ← Program.runToEnd child.executable [.ofString terminateArgument] with
  | .error failure => return .error (.terminationCommand child.executable.shown failure.reason)
  | .ok _ =>
    log .info .managedChild ("Successfully terminated " ++ child.executable.shown)
    match ← Program.forceKill child.pid with
    | .error failure => return .error (.forceKill child.pid failure.reason)
    | .ok _ =>
      reap child
      return .ok ()

def shutdownLibrary (library : Native.Library) : Procedure (Except Failure Unit) := do
  match ← perform (.call library .shutdown) with
  | .ok _ => return .ok ()
  | .error failure => return .error (.native .shutdown failure)

def stopEmbedded (library : Native.Library) (handle : Native.Handle) :
    Procedure (Except Failure Unit) := do
  match ← perform (.call library (.stopEmbedded handle)) with
  | .error failure => return .error (.native .stop failure)
  | .ok _ =>
    log .debug .embedded ("Stopped embedded host engine (handle " ++ handle.text ++ ")")
    shutdownLibrary library

def disconnect (library : Native.Library) (link : Link) : Procedure (Except Failure Unit) := do
  match ← perform (.call library (.disconnect link.handle)) with
  | .error failure => return .error (.native .disconnect failure)
  | .ok _ =>
    log .debug .standalone ("Disconnected from host engine at " ++ link.target.text)
    shutdownLibrary library

/-- Disconnects from a child, and terminates it if that succeeded. -/
def disconnectChild (library : Native.Library) (link : Link) (child : Child) :
    Procedure (Except Failure Unit) := do
  match ← disconnect library link with
  | .ok _ => terminate child
  | .error failure => return .error failure

/-- Disconnects from a child and terminates it; its socket path is removed in any case. -/
def stopChild (library : Native.Library) (link : Link) (child : Child) :
    Procedure (Except Failure Unit) := do
  let outcome ← disconnectChild library link child
  removeSocket child
  return outcome

def takeDown (library : Native.Library) : Connection → Procedure (Except Failure Unit)
  | .embedded handle => stopEmbedded library handle
  | .standalone link => disconnect library link
  | .managedChild link child => stopChild library link child

def reportEnd (mode : Mode) : Except Failure Unit → Procedure Unit
  | .ok _ => log .info .session (mode.name ++ " session shut down")
  | .error failure =>
    log .warn .session (mode.name ++ " session shut down with error: " ++ failure.message)

def shutdown (session : Session) : Procedure (Except Failure Unit) := do
  log .info .session ("Shutting down " ++ session.mode.name ++ " session")
  let outcome ← takeDown session.library session.connection
  release session.library
  reportEnd session.mode outcome
  return outcome

/-- Drops a session without shutting it down: the library is let go and the socket path removed, but
nothing is called and a child goes on running. -/
def drop (session : Session) : Procedure Unit := do
  perform (.discard session.library)
  match session.child? with
  | none => return ()
  | some child =>
    let _ ← perform (.remove child.socketPath)
    return ()

end HostEngine.Session
