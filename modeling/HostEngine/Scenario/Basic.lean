import HostEngine.Scenario.Engine
import HostEngine.Session.Start
/-!
Scenarios: steps on named sessions, loaded libraries and host engine children of one machine. A step
gives an answer, and what changed during it can be read off the machine before and after.
-/
set_option autoImplicit false

namespace HostEngine.Scenario

structure Named where
  session : Option Session
  library : Option Native.Library
  /-- The child that was started last under the name. -/
  child : Option Child
  deriving DecidableEq, Repr

structure State where
  machine : Machine
  layout : Layout
  options : Options
  named : List (String × Named)

inductive Question where
  | name
  | call (call : Native.Call)
  deriving DecidableEq, Repr

inductive Step where
  | start (mode : Mode) (args : List String)
  | describe
  | shutdown
  | drop
  | load (library : String)
  | unload
  | discard
  | askLibrary (question : Question)
  | askSession (question : Question)
  | fail (point : Machine.Point) (code : Int32)
  | setCode (function : Native.Call.Function) (code : Int32)
  | installEngine (engine : Engine)
  | killChild
  | awaitChild
  | reapChild
  | removeSocket
  | removeExecutable
  | socketToDirectory
  | childState
  deriving DecidableEq, Repr

structure Serving where
  arguments : List Octets
  pidMatches : Bool
  leadsOwnGroup : Bool
  deriving DecidableEq, Repr

structure ChildView where
  child : Child
  socketExists : Bool
  running : Bool
  serving : Option Serving
  deriving DecidableEq, Repr

inductive Answer where
  | done
  | nothingThere
  | truth (value : Bool)
  | session (session : Session) (view : Option ChildView)
  | failed (failure : Failure)
  | loaded (name : String)
  | text (text : String)
  | native (result : Except Native.Failure (Option Native.Handle))
  | childState (running socketExists : Bool)

namespace State

def get (state : State) (name : String) : Named :=
  (state.named.lookup name).getD ⟨none, none, none⟩

def put (state : State) (name : String) (named : Named) : State :=
  { state with named := (name, named) :: state.named.filter (·.1 ≠ name) }

def perform {α : Type} (state : State) (procedure : Procedure α) : α × State :=
  let (result, machine) := state.machine.run procedure
  (result, { state with machine })

def isThere (state : State) (path : Octets) : Bool :=
  match state.machine.files.find state.machine.directory path with
  | .ok _ => true
  | .error _ => false

def isRunning (state : State) (pid : UInt32) : Bool :=
  match (state.perform (Program.processExists pid)).1 with
  | .ok value => value
  | .error _ => false

def servingOf (state : State) (child : Child) : Serving :=
  let (pid, arguments) := recorded state.machine state.layout
  let leads := match state.machine.processes.find? child.pid.toNat with
    | some process => process.group = process.pid
    | none => false
  ⟨arguments, pid = .ofString (decimal child.pid.toNat), leads⟩

def view (state : State) (started : Bool) (session : Session) : Answer :=
  .session session <| session.child?.map fun child =>
    ⟨child, state.isThere child.socketPath, state.isRunning child.pid,
      if started then some (state.servingOf child) else none⟩

/-- Ends what stands under a name without shutting it down, if it is a session. -/
def dropSession (state : State) (session : Option Session) : State :=
  match session with
  | some session => (state.perform session.drop).2
  | none => state

/-- Starts a session under a name; one that is there already is dropped afterwards. -/
def start (state : State) (name : String) (mode : Mode) (args : List String) : Answer × State :=
  let named := state.get name
  match state.perform (Session.start state.options mode args) with
  | (.error failure, state) => (.failed failure, state)
  | (.ok session, state) =>
    let answer := state.view true session
    let state := state.dropSession named.session
    (answer, state.put name
      ⟨some session, named.library, session.child? <|> named.child⟩)

def shutdown (state : State) (name : String) : Answer × State :=
  let named := state.get name
  match named.session with
  | none => (.nothingThere, state)
  | some session =>
    let (result, state) := state.perform session.shutdown
    let state := state.put name { named with session := none }
    match result with
    | .ok _ => (.done, state)
    | .error failure => (.failed failure, state)

def discardLibrary (state : State) (library : Option Native.Library) : State :=
  match library with
  | some library => (state.perform (Procedure.perform (.discard library))).2
  | none => state

def load (state : State) (name library : String) : Answer × State :=
  let named := state.get name
  match state.perform (Procedure.perform (.load library)) with
  | (.error reason, state) => (.failed (.libraryNotFound library reason), state)
  | (.ok loaded, state) =>
    let state := state.discardLibrary named.library
    (.loaded loaded.name, state.put name { named with library := some loaded })

def unload (state : State) (name : String) : Answer × State :=
  let named := state.get name
  match named.library with
  | none => (.nothingThere, state)
  | some library =>
    let (result, state) := state.perform (Procedure.perform (.unload library))
    let state := state.put name { named with library := none }
    match result with
    | .ok _ => (.done, state)
    | .error reason => (.failed (.libraryUnload library.name reason), state)

def ask (state : State) (library : Option Native.Library) (question : Question) :
    Answer × State :=
  match library, question with
  | none, _ => (.nothingThere, state)
  | some library, .name => (.text library.name, state)
  | some library, .call call =>
    let (result, state) := state.perform (Procedure.perform (.call library call))
    (.native (result.map call.handle?), state)

def onChild (state : State) (name : String) (answer : Answer) (change : Child → Machine → Machine) :
    Answer × State :=
  match (state.get name).child with
  | none => (.nothingThere, state)
  | some child => (answer, { state with machine := change child state.machine })

def killed (machine : Machine) (pid : UInt32) : Machine :=
  (machine.signal (Program.kernelPid pid) (some .kill)).2

def without (machine : Machine) (path : Octets) : Machine := (machine.remove path).2

def withDirectory (machine : Machine) (path : Octets) : Machine :=
  match machine.files.locate false machine.directory path with
  | .ok (place, _) => { machine with files := machine.files.put place .directory }
  | .error _ => machine

def step (state : State) (name : String) : Step → Answer × State
  | .start mode args => state.start name mode args
  | .describe =>
    match (state.get name).session with
    | some session => (state.view false session, state)
    | none => (.nothingThere, state)
  | .shutdown => state.shutdown name
  | .drop =>
    let named := state.get name
    (.truth named.session.isSome,
      (state.dropSession named.session).put name { named with session := none })
  | .load library => state.load name library
  | .unload => state.unload name
  | .discard =>
    let named := state.get name
    (.truth named.library.isSome,
      (state.discardLibrary named.library).put name { named with library := none })
  | .askLibrary question => state.ask (state.get name).library question
  | .askSession question => state.ask ((state.get name).session.map Session.library) question
  | .fail point code =>
    (.done, { state with machine := { state.machine with
        natives := state.machine.natives.setFailure point code } })
  | .setCode function code =>
    (.done, { state with machine := { state.machine with
        natives := state.machine.natives.setCode function code } })
  | .installEngine engine =>
    (.done, { state with machine := Scenario.installEngine state.machine state.layout engine })
  | .killChild => state.onChild name .done fun child machine => killed machine child.pid
  | .awaitChild => state.onChild name .done fun child machine =>
      { machine with processes := machine.processes.finish child.pid.toNat }
  | .reapChild => state.onChild name .done fun child machine =>
      ((killed machine child.pid).wait child.pid).2
  | .removeSocket => state.onChild name (.truth true) fun child machine =>
      without machine child.socketPath
  | .removeExecutable => state.onChild name (.truth true) fun child machine =>
      without machine child.executable
  | .socketToDirectory => state.onChild name (.truth true) fun child machine =>
      withDirectory machine child.socketPath
  | .childState =>
    match (state.get name).child with
    | none => (.nothingThere, state)
    | some child =>
      (.childState (state.isRunning child.pid) (state.isThere child.socketPath), state)

end State

/-- What a step did: its answer, what was called and logged meanwhile, and what there is after
it. -/
structure Report where
  answer : Answer
  records : List Machine.Record
  live : Nat
  terminations : Nat
  scratch : List String
  events : List Log.Event

def State.report (state : State) (name : String) (step : Step) : Report × State :=
  let (answer, after) := state.step name step
  (⟨answer, after.machine.natives.journal.drop state.machine.natives.journal.length,
    after.machine.natives.live, Scenario.terminations after.machine after.layout,
    pathsIn after.machine after.options.child.scratchDirectory,
    after.machine.events.drop state.machine.events.length⟩, after)

end HostEngine.Scenario
