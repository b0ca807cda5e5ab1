import HostEngine.Kernel.Fault
import HostEngine.Kernel.Signal
/-!
The processes of a machine. A process that ended keeps its number until it is waited for, and a new
process gets a number that no other process has. A signal goes to one process or to a group of them,
as the sign of the number says.
-/
set_option autoImplicit false

namespace HostEngine.Machine

/-- What a process is doing: it runs, and will end in some way if nothing happens to it, or it has
ended and waits to be waited for. -/
inductive Condition where
  | running (atLast : Kernel.Exit)
  | ended (exit : Kernel.Exit)
  deriving DecidableEq, Repr

namespace Condition

def receive (signal : Kernel.Signal) : Condition → Condition
  | running atLast =>
    if signal.isHarmless || signal.isStopping then running atLast else ended (.signal signal)
  | ended exit => ended exit

def exit : Condition → Kernel.Exit
  | running atLast => atLast
  | ended exit => exit

end Condition

structure Process where
  pid : Nat
  group : Nat
  condition : Condition
  deriving DecidableEq, Repr

/-- The processes of a machine, as one of them sees them. -/
structure Processes where
  own : Nat
  ownGroup : Nat
  table : List Process
  deriving Repr

namespace Processes

def initial : Nat := 1

def fresh (other own : Nat) : Processes :=
  let process (pid : Nat) : Process := ⟨pid, pid, .running (.code 0)⟩
  ⟨own, own, [process initial, process other, process own]⟩

def find? (processes : Processes) (pid : Nat) : Option Process :=
  processes.table.find? (·.pid = pid)

/-- Whether a process is among those that a signal's number addresses: the one with a positive
number, the sender's group for zero, all but the first and the sender for minus one, and a group for
any other negative number. -/
def addresses (processes : Processes) (pid : Int32) (process : Process) : Bool :=
  let number := pid.toInt
  if 0 < number then process.pid = number.toNat
  else if number = 0 then process.group = processes.ownGroup
  else if number = -1 then process.pid ≠ initial && process.pid ≠ processes.own
  else number ≠ Int32.minValue.toInt && process.group = (-number).toNat

/-- Sends a signal, or only looks for someone it could be sent to. -/
def signal (processes : Processes) (pid : Int32) (signal : Option Kernel.Signal) :
    Except Kernel.Errno Processes :=
  if processes.table.any (processes.addresses pid) then
    match signal with
    | none => .ok processes
    | some signal => .ok { processes with
        table := processes.table.map fun process =>
          if processes.addresses pid process then
            { process with condition := process.condition.receive signal }
          else process }
  else .error .noProcess

def unused (processes : Processes) : Nat :=
  (processes.table.map Process.pid).foldl max processes.own + 1

def start (processes : Processes) (condition : Condition) : Processes × Nat :=
  let pid := processes.unused
  ({ processes with table := processes.table ++ [⟨pid, pid, condition⟩] }, pid)

def fork (processes : Processes) : Processes × Nat :=
  let pid := processes.unused
  let process : Process := ⟨pid, processes.ownGroup, .running (.code 0)⟩
  ({ processes with table := processes.table ++ [process] }, pid)

def seenBy (processes : Processes) (pid : Nat) : Processes :=
  { processes with own := pid, ownGroup := ((processes.find? pid).map Process.group).getD pid }

def settle (processes : Processes) (pid : Nat) (condition : Condition) : Processes :=
  { processes with table := processes.table.map fun process =>
      match process.condition with
      | .running _ => if process.pid = pid then { process with condition } else process
      | .ended _ => process }

def release (processes : Processes) (pid : Nat) : Processes :=
  { processes with table := processes.table.filter fun process => process.pid ≠ pid }

def blow? (processes : Processes) : Option Kernel.Signal :=
  match (processes.find? processes.own).map Process.condition with
  | some (.ended (.signal signal)) => some signal
  | _ => none

def revived (processes : Processes) : Processes :=
  { processes with table := processes.table.map fun process =>
      if process.pid = processes.own then { process with condition := .running (.code 0) }
      else process }

def finish (processes : Processes) (pid : Nat) : Processes :=
  { processes with table := processes.table.map fun process =>
      if process.pid = pid then
        { process with condition := .ended process.condition.exit }
      else process }

def noChild : Kernel.Errno := ⟨10⟩

/-- Waits for the end of a child, whose number is free again afterwards. -/
def wait (processes : Processes) (pid : Nat) : Except Kernel.Errno (Kernel.Exit × Processes) :=
  match processes.find? pid with
  | none => .error noChild
  | some process =>
    .ok (process.condition.exit, processes.release pid)

end Processes

end HostEngine.Machine
