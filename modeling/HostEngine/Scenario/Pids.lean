import HostEngine.Machine.Basic
import HostEngine.Program.Execution
/-!
Questions for processes and attempts to kill them, around one child that sleeps.
-/
set_option autoImplicit false

namespace HostEngine.Scenario.Pids

inductive Subject where
  | child
  | own
  | number (pid : UInt32)
  deriving DecidableEq, Repr

inductive Step where
  | existence (subject : Subject)
  | kill (subject : Subject)
  | reap
  deriving DecidableEq, Repr

inductive Answer where
  | truth (value : Bool)
  | done
  | refused
  | failed (failure : Program.Failure)
  | ended (exit : Kernel.Exit)

structure State where
  machine : Machine
  child : UInt32
  exit : Option Kernel.Exit

def State.fresh (machine : Machine) : State :=
  let (processes, pid) := machine.processes.start (.running (.code 0))
  ⟨{ machine with processes }, UInt32.ofNat pid, none⟩

def highest : Int := 4194304

namespace State

def pid (state : State) : Subject → UInt32
  | .child => state.child
  | .own => UInt32.ofNat state.machine.processes.own
  | .number pid => pid

/-- Whether an attempt to kill may be made: on the child, or where no process can be. -/
def mayKill (subject : Subject) (pid : UInt32) : Bool :=
  subject = .child || highest < (Program.kernelPid pid).toInt.natAbs

def reap (state : State) : Answer × State :=
  match state.exit with
  | some exit => (.ended exit, state)
  | none =>
    let killed := (state.machine.signal (Program.kernelPid state.child) (some .kill)).2
    match killed.wait state.child with
    | (.ok exit, machine) => (.ended exit, { state with machine, exit := some exit })
    | (.error _, machine) => (.done, { state with machine })

def step (state : State) : Step → Answer × State
  | .existence subject =>
    match state.machine.run (Program.processExists (state.pid subject)) with
    | (.ok value, machine) => (.truth value, { state with machine })
    | (.error failure, machine) => (.failed failure, { state with machine })
  | .kill subject =>
    if !mayKill subject (state.pid subject) then (.refused, state)
    else
      match state.machine.run (Program.forceKill (state.pid subject)) with
      | (.ok _, machine) => (.done, { state with machine })
      | (.error failure, machine) => (.failed failure, { state with machine })
  | .reap => state.reap

def steps (state : State) : List Step → List Answer
  | [] => []
  | s :: rest => (state.step s).1 :: (state.step s).2.steps rest

end State

end HostEngine.Scenario.Pids
