import HostEngine.CommandLine.Configuration
import HostEngine.Log.Filter
import HostEngine.Session.Start
/-!
The control program: starts a session as its command line says, waits for a signal or for a given
time, and shuts the session down.
-/
set_option autoImplicit false

namespace HostEngine.Control

open Procedure CommandLine

inductive Failure where
  | usage (stop : Stop)
  | configuration (failure : Config.Failure)
  | start (failure : HostEngine.Failure)
  | shutdown (failure : HostEngine.Failure)
  deriving DecidableEq, Repr

namespace Failure

/-- The exit code: a wrong command line is told from other failures, and a question is none. -/
def code : Failure → Nat
  | usage .help | usage .version => 0
  | usage _ => 2
  | configuration _ | start _ | shutdown _ => 1

/-- A text with its later lines set in. -/
def indented (text : String) : String :=
  String.ofList (text.toList.flatMap fun c => if c = '\n' then "\n    ".toList else [c])

def complaint : Failure → String
  | usage stop => stop.message ++ "\n"
  | configuration failure =>
    "Error: " ++ failure.message ++
      ((failure.cause?.map fun cause => "\n\nCaused by:\n    " ++ indented cause).getD "") ++ "\n"
  | start failure => "Error: Start failed: " ++ failure.message ++ "\n"
  | shutdown failure => "Error: Shutdown failed: " ++ failure.message ++ "\n"

end Failure

def say (message : String) : Procedure Unit := log .info .control message

/-- Waits until a signal asks the program to end; a signal that cannot be caught is reported. -/
def awaitEnd : Procedure Unit := do
  match ← perform (.catchSignal .terminate) with
  | .error fault => log .error .control ("Failed to create SIGTERM handler: " ++ fault.text)
  | .ok _ =>
    match ← perform (.catchSignal .interrupt) with
    | .error fault => log .error .control ("Failed to create SIGINT handler: " ++ fault.text)
    | .ok _ =>
      let signal ← perform .awaitSignal
      say ("Received " ++ (signal.name?.getD "") ++ " signal")

def announce (session : Session) : Procedure Unit := do
  say ("Session started (handle " ++ session.handle.text ++ ")")
  match session.child? with
  | none => return ()
  | some child =>
    say <| "Host engine child (PID: " ++ decimal child.pid.toNat ++ ") listening on " ++
      child.socketPath.shown

def waitForEnd (duration : Option UInt64) : Procedure Unit := do
  match duration with
  | none => awaitEnd
  | some seconds =>
    say ("Running for " ++ decimal seconds.toNat ++ " seconds (test mode)")
    perform (.pause seconds)

def attend (session : Session) (duration : Option UInt64) : Procedure Unit := do
  announce session
  waitForEnd duration
  say "Shutting down session..."

def close (session : Session) : Procedure (Except Failure Unit) := do
  match ← session.shutdown with
  | .error failure => return .error (.shutdown failure)
  | .ok _ =>
    say "Session shut down successfully"
    return .ok ()

def keep (session : Session) (duration : Option UInt64) : Procedure (Except Failure Unit) := do
  attend session duration
  close session

def startSession (config : Config) : Procedure (Except Failure Session) := do
  say ("Starting DCGM host engine control " ++ version)
  say ("Mode: " ++ config.mode.name ++ ", library: " ++ config.library)
  match ← Session.start config.options config.mode config.startupArgs with
  | .error failure =>
    log .error .control <| "Failed to initialize " ++ config.mode.name ++ " session: " ++
      failure.message
    return .error (.start failure)
  | .ok session => return .ok session

def configure (arguments : Arguments) : Procedure (Except Config.Failure Config) := do
  match arguments.config with
  | none => return arguments.configuration fun _ => .error (.system .noEntry)
  | some path =>
    let content ← perform (.read (.ofString path))
    return arguments.configuration fun _ => content

def logLevel (arguments : Arguments) (config : Config) : String :=
  if arguments.debug then "debug" else config.logLevel

def filterVariable : String := "RUST_LOG"

/-- Starts a session as a command line says, and tells how long the session is to last. -/
def setUp (words : List String) : Procedure (Except Failure (Session × Option UInt64)) := do
  match Arguments.read words with
  | .error stop => return .error (.usage stop)
  | .ok arguments =>
    match ← configure arguments with
    | .error failure => return .error (.configuration failure)
    | .ok config =>
      let selection ← perform (.environment filterVariable)
      perform (.selectLog (Log.Filter.choose selection (logLevel arguments config)))
      return (← startSession config).map fun session => (session, arguments.runDuration)

def program (words : List String) : Procedure (Except Failure Unit) := do
  match ← setUp words with
  | .error failure => return .error failure
  | .ok (session, duration) => keep session duration

end HostEngine.Control
