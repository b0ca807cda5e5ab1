import HostEngine.Machine.Processes
import HostEngine.Machine.Files
import HostEngine.Machine.Shell.Basic
/-!
What programs run in: files, other processes, an environment and streams. A program that sleeps is
run to its end at once, and the fact that it slept is kept.
-/
set_option autoImplicit false

namespace HostEngine.Machine.Shell

/-- Where a stream leads: what is left to be read, or the place of a file that is written to. -/
inductive Stream where
  | nowhere
  | source (left : Octets)
  | target (path : Path)
  deriving DecidableEq, Repr

/-- What a program runs in; the processes are those that the program sees as itself. -/
structure World where
  files : Files
  directory : Directory
  environment : List (Octets × Octets)
  processes : Processes
  streams : List (Nat × Stream)
  ignored : List Kernel.Signal
  parent : Nat

structure Outcome where
  files : Files
  processes : Processes
  exit : Kernel.Exit
  slept : Bool

abbrev Launch := World → Octets → List Octets → Except Kernel.Errno Outcome

namespace World

def disconnected : List (Nat × Stream) := [(0, .source []), (1, .nowhere), (2, .nowhere)]

def pid (world : World) : Nat := world.processes.own

def readable (world : World) (stream : Nat) : Octets :=
  match world.streams.lookup stream with
  | some (.source left) => left
  | some (.target path) =>
    match world.files.entry? path with
    | some (.file _ content) => content
    | _ => []
  | some .nowhere | none => []

def withStream (world : World) (stream : Nat) (leads : Stream) : World :=
  { world with streams := (stream, leads) :: world.streams.filter (·.1 ≠ stream) }

def print (world : World) (text : Text) : World × Bool :=
  match world.streams.lookup 1 with
  | some (.target path) => ({ world with files := world.files.appendTo path text.octets }, true)
  | some .nowhere => (world, true)
  | some (.source _) | none => (world, text = [])

def redirect? (world : World) (stream : Nat) (direction : Direction) (target : Text) :
    Option World :=
  match direction with
  | .text => some (world.withStream stream (.source target.octets))
  | .read =>
    match world.files.read world.directory target.octets with
    | .ok content => some (world.withStream stream (.source content))
    | .error _ => none
  | .duplicate =>
    if target = ['-'] then
      some { world with streams := world.streams.filter (·.1 ≠ stream) }
    else do
      let other ← if target.all Char.isDigit then (String.ofList target).toNat? else none
      some (world.withStream stream (← world.streams.lookup other))
  | .write | .append =>
    match world.files.openToWrite world.directory target.octets (direction = .append) with
    | .error _ => none
    | .ok (files, some path) => some ({ world with files }.withStream stream (.target path))
    | .ok (files, none) => some ({ world with files }.withStream stream .nowhere)

def send (world : World) (pid : Int) (signal : Kernel.Signal) : Except Kernel.Errno World :=
  let number := Int32.ofInt pid
  if number.toInt ≠ pid then .error .noProcess
  else
    (world.processes.signal number (if signal.number = 0 then none else some signal)).map
      fun processes => { world with processes }

def forked (world : World) : World :=
  let (processes, pid) := world.processes.fork
  { world with processes := processes.seenBy pid, parent := world.pid }

/-- The world after a process that was forked has ended, as the one that forked it sees it. -/
def joined (world : World) (files : Files) (processes : Processes) : World :=
  { world with
    files, processes := (processes.release processes.own).seenBy world.processes.own }

/-! A pipe is a file that no name leads to, for names hold no NUL. -/

def pipePath (files : Files) : Path :=
  [[0], .ofString (decimal (files.entries.filter (·.1.head? = some [0])).length)]

def piped (world : World) : World × Path :=
  let path := pipePath world.files
  ({ world with files := world.files.put path (.file false []) }.withStream 1 (.target path), path)

def drained (files : Files) (path : Path) : Octets × Files :=
  (match files.entry? path with
    | some (.file _ content) => content
    | _ => [], files.erase path)

end World

end HostEngine.Machine.Shell
