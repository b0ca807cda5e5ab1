import HostEngine.Options
import HostEngine.Program.Execution
import HostEngine.Session.Shutdown
/-!
Starting a session. The arguments are checked before the library is loaded; whatever a failed start
had done is undone before the failure is returned, and a failure of that undoing is only logged.
-/
set_option autoImplicit false

namespace HostEngine.Session

open Procedure

/-- What a mode needs before the library is loaded. -/
inductive Plan where
  | embedded
  | standalone (target : Target)
  | managedChild
  deriving DecidableEq, Repr

/-- The plan for a mode and its arguments, which only the standalone mode reads. -/
def Plan.make (mode : Mode) (args : List String) : Except Failure Plan :=
  match mode with
  | .embedded => .ok .embedded
  | .standalone => (Target.ofArgs args).map .standalone
  | .managedChild => .ok .managedChild

/-- Logs that the library could not be shut down after a failed start. -/
def warnOfSecond : Except Native.Failure Unit → Procedure Unit
  | .ok _ => pure ()
  | .error second =>
    log .warn .connection ("Native shutdown after failed start also failed: " ++ second.text)

/-- Initializes the library, then starts something that needs that. If this fails, the library is
shut down again. -/
def withInit {α : Type} (library : Native.Library) (start : Procedure (Except Failure α)) :
    Procedure (Except Failure α) := do
  match ← perform (.call library .init) with
  | .error failure => return .error (.native .init failure)
  | .ok _ =>
    match ← start with
    | .ok started => return .ok started
    | .error failure =>
      warnOfSecond (← perform (.call library .shutdown))
      return .error failure

/-- Starts a host engine inside this process, which drives itself. -/
def startEmbedded (library : Native.Library) : Procedure (Except Failure Native.Handle) := do
  let started ← withInit library do
    match ← perform (.call library (.startEmbedded .automatic)) with
    | .ok handle => return .ok handle
    | .error failure => return .error (.native .start failure)
  match started with
  | .error failure => return .error failure
  | .ok handle =>
    log .info .embedded ("Started embedded host engine (handle " ++ handle.text ++ ")")
    return .ok handle

def connect (library : Native.Library) (target : Target) : Procedure (Except Failure Link) := do
  let connected ← withInit library do
    let params := Native.ConnectParams.ofFlag target.flag
    log .debug .standalone <| "Connecting to " ++ target.text ++ " (params version 0x" ++
      hexadecimal params.version.toNat ++ ")"
    match ← perform (.call library (.connect target.octets params)) with
    | .ok handle => return .ok handle
    | .error failure => return .error (.native .connect failure)
  match connected with
  | .error failure => return .error failure
  | .ok handle =>
    log .info .standalone <| "Connected to host engine at " ++ target.text ++ " (handle " ++
      handle.text ++ ")"
    return .ok ⟨handle, target⟩

/-- Kills a child and waits for it; one that cannot be killed is left alone. -/
def killChild (child : Child) : Procedure Unit := do
  match ← Program.forceKill child.pid with
  | .ok _ => reap child
  | .error failure =>
    log .warn .managedChild <| "Failed to kill host engine (PID: " ++
      decimal child.pid.toNat ++ "): " ++ failure.message

def abort (child : Child) : Procedure Unit := do
  log .warn .managedChild <| "Killing host engine (PID: " ++ decimal child.pid.toNat ++
    ") after failed startup"
  killChild child
  removeSocket child

def connectChild (library : Native.Library) (child : Child) :
    Procedure (Except Failure Link) := do
  match Target.ofSocketPath child.socketPath with
  | .error failure => return .error failure
  | .ok target => connect library target

/-- Connects to a child that was just started; one that cannot be connected to is aborted. -/
def adopt (library : Native.Library) (child : Child) :
    Procedure (Except Failure Connection) := do
  match ← connectChild library child with
  | .ok link => return .ok (.managedChild link child)
  | .error failure =>
    abort child
    return .error failure

/-- Starts a program as a child that listens at a reserved path, and connects to it. If the program
cannot be started, the path is given up. -/
def launch (library : Native.Library) (executable socketPath : Octets) :
    Procedure (Except Failure Connection) := do
  match ← Program.spawn executable [.ofString socketArgument, socketPath] with
  | .error failure =>
    let _ ← perform (.remove socketPath)
    return .error (.spawn executable.shown failure.reason)
  | .ok pid =>
    log .info .managedChild <| "Started host engine child (PID: " ++ decimal pid.toNat ++
      ") on " ++ socketPath.shown
    adopt library ⟨pid, executable, socketPath⟩

/-- Finds the host engine's program, reserves a path for its socket, starts it as a child and
connects to it. -/
def startChild (library : Native.Library) (options : ChildOptions) :
    Procedure (Except Failure Connection) := do
  match ← Program.find options.executable options.searchPath with
  | .error failure => return .error (.executableNotFound options.executable failure.reason)
  | .ok executable =>
    log .debug .managedChild ("Resolved host engine binary: " ++ executable.shown)
    match ← perform (.reserve options.scratchDirectory options.socketStem) with
    | .error fault => return .error (.scratchFile options.scratchDirectory fault)
    | .ok socketPath => launch library executable socketPath

def follow (library : Native.Library) (options : ChildOptions) (plan : Plan) :
    Procedure (Except Failure Connection) := do
  match plan with
  | .embedded => return (← startEmbedded library).map .embedded
  | .standalone target => return (← connect library target).map .standalone
  | .managedChild => startChild library options

/-- Loads the library and makes the connection of a plan. If that fails, the library is closed
again. -/
def startPlanned (options : Options) (mode : Mode) (plan : Plan) :
    Procedure (Except Failure Session) := do
  log .info .manager ("Loading " ++ options.library)
  match ← perform (.load options.library) with
  | .error reason => return .error (.libraryNotFound options.library reason)
  | .ok library =>
    log .debug .manager ("Loaded " ++ library.name)
    match ← follow library options.child plan with
    | .ok connection =>
      log .info .manager <| "Initialized " ++ mode.name ++ " session (handle " ++
        connection.handle.text ++ ")"
      return .ok ⟨library, connection⟩
    | .error failure =>
      log .warn .manager <| "Failed to initialize " ++ mode.name ++ " session: " ++
        failure.message
      release library
      return .error failure

def start (options : Options) (mode : Mode) (args : List String) :
    Procedure (Except Failure Session) := do
  match Plan.make mode args with
  | .error failure => return .error failure
  | .ok plan => startPlanned options mode plan

end HostEngine.Session
