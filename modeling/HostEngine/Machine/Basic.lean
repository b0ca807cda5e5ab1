import HostEngine.Procedure.Exposure
import HostEngine.Machine.Execution
import HostEngine.Machine.Lookup
import HostEngine.Machine.Natives
import HostEngine.Machine.Processes
/-!
A machine that answers requests: files, processes, native libraries and an environment, all as one
value. Running a procedure on a machine gives the procedure's result and the machine afterwards.
-/
set_option autoImplicit false

namespace HostEngine

/-- The state of a machine, as the process that runs the library sees it. -/
structure Machine where
  files : Machine.Files
  directory : Machine.Directory
  environment : List (Octets × Octets)
  lookup : Machine.Lookup
  processes : Machine.Processes
  natives : Machine.Natives
  events : List Log.Event
  filter : Option Log.Filter
  /-- Where the next search for an unused name begins. -/
  suffix : Nat
  arriving : Kernel.Signal
  /-- The signals that children have sent to the process that runs the library. They arrive when it
  waits. -/
  pending : List Kernel.Signal
  arrived : List Kernel.Signal

namespace Machine

def variableValue? (machine : Machine) (name : String) : Option Octets :=
  machine.environment.lookup (.ofString name)

def setVariable (machine : Machine) (name : String) (value : Option Octets) : Machine :=
  let others := machine.environment.filter (·.1 ≠ .ofString name)
  { machine with environment := (value.map fun v => (.ofString name, v)).toList ++ others }

def log (machine : Machine) (event : Log.Event) : Machine :=
  if (machine.filter.map fun filter => filter.admits event).getD true then
    { machine with events := machine.events ++ [event] }
  else machine

/-! ### Libraries -/

def systemLibraries : List Octets :=
  ["/lib/x86_64-linux-gnu", "/usr/lib/x86_64-linux-gnu", "/lib", "/usr/lib"].map .ofString

def librarySetting (machine : Machine) : Natives.Setting :=
  let listed := ((machine.variableValue? "LD_LIBRARY_PATH").map
    fun list => list.splitOn Lookup.colon).getD []
  ⟨machine.files, machine.directory,
    listed.map (fun entry => if entry = [] then [dot] else entry) ++ systemLibraries⟩

/-- Loads a library; a library file says so in the log. -/
def load (machine : Machine) (name : String) : Except String Native.Library × Machine :=
  let (natives, result) := machine.natives.load machine.librarySetting name
  let machine := { machine with natives }
  match result, natives.source with
  | .ok library, .files _ _ _ =>
    (.ok library, machine.log
      ⟨.debug, .library, "Loaded " ++ name ++ " and resolved lifecycle symbols"⟩)
  | result, _ => (result, machine)

/-! ### Programs -/

def lookupSetting (machine : Machine) : Lookup.Setting :=
  ⟨machine.files, machine.directory, machine.environment⟩

/-- Finds a program. A given search list needs a working directory. -/
def find (machine : Machine) (name : String) (searchPath : Option String) :
    Except String Octets :=
  match searchPath, machine.directory.name? with
  | some _, none => .error Kernel.Errno.noEntry.text
  | some list, some _ =>
    machine.lookup machine.lookupSetting (.ofString name) (some (.ofString list))
  | none, _ => machine.lookup machine.lookupSetting (.ofString name) none

/-- What a program runs in as one of the processes. Its streams lead nowhere. -/
def world (machine : Machine) (processes : Processes) (pid : Nat) : Shell.World :=
  ⟨machine.files, machine.directory, machine.environment, processes.seenBy pid,
    Shell.World.disconnected, [], machine.processes.own⟩

/-- What a program leaves of the processes, and the signal that it sent to the one that runs the
library. -/
def leftBy (machine : Machine) (processes : Processes) : Processes × List Kernel.Signal :=
  let seen := processes.seenBy machine.processes.own
  (seen.revived, seen.blow?.toList)

/-- Starts a program as a process of its own. It runs on only if it slept. -/
def spawn (machine : Machine) (program : Octets) (arguments : List Octets) :
    Except Kernel.Fault UInt32 × Machine :=
  let (processes, pid) := machine.processes.start (.running (.code 0))
  match Execution.run (machine.world processes pid) program arguments with
  | .error fault => (.error fault, machine)
  | .ok outcome =>
    let condition : Condition :=
      if outcome.slept then .running outcome.exit else .ended outcome.exit
    let (processes, sent) := machine.leftBy (outcome.processes.settle pid condition)
    (.ok (UInt32.ofNat pid), { machine with
      files := outcome.files, processes, pending := machine.pending ++ sent })

def runToEnd (machine : Machine) (program : Octets) (arguments : List Octets) :
    Except Kernel.Fault Kernel.Exit × Machine :=
  let (processes, pid) := machine.processes.fork
  match Execution.run (machine.world processes pid) program arguments with
  | .error fault => (.error fault, machine)
  | .ok outcome =>
    let (processes, sent) := machine.leftBy (outcome.processes.release pid)
    (.ok outcome.exit, { machine with
      files := outcome.files, processes, arrived := machine.arrived ++ sent })

def signal (machine : Machine) (pid : Int32) (signal : Option Kernel.Signal) :
    Except Kernel.Errno Unit × Machine :=
  match machine.processes.signal pid signal with
  | .error errno => (.error errno, machine)
  | .ok processes => (.ok (), { machine with processes })

def wait (machine : Machine) (pid : UInt32) : Except Kernel.Fault Kernel.Exit × Machine :=
  match machine.processes.wait pid.toNat with
  | .error errno => (.error (.system errno), machine)
  | .ok (exit, processes) => (.ok exit, { machine with processes })

/-! ### Reserved names -/

def suffixLength : Nat := 6

def suffixAlphabet : List Char :=
  "ABCDEFGHIJKLMNOPQRSTUVWXYZabcdefghijklmnopqrstuvwxyz0123456789".toList

def suffixChars : Nat → Nat → List Char
  | 0, _ => []
  | width + 1, n =>
    suffixChars width (n / suffixAlphabet.length) ++
      [suffixAlphabet[n % suffixAlphabet.length]?.getD 'A']

def suffixOctets (n : Nat) : Octets := .ofString (String.ofList (suffixChars suffixLength n))

def tooManyNames : Kernel.Fault := .stated "too many temporary files exist"

/-- Creates a file under the first unused name in a directory; `tries` bounds the search. -/
def createUnused (files : Files) (directory : Directory) (base stem : Octets) :
    Nat → Nat → Except Kernel.Fault (Octets × Files)
  | 0, _ => .error (.atPath tooManyNames base)
  | tries + 1, n =>
    let name := Lookup.join base (stem ++ suffixOctets n)
    if name.hasNul then .error (.atPath .nulInName name)
    else
      match files.create directory name with
      | .ok (files, _) => .ok (name, files)
      | .error errno =>
        if errno = .alreadyThere then createUnused files directory base stem tries (n + 1)
        else .error (.atPath (.system errno) name)

/-- Creates an empty file under a new name in a directory, which is taken from the working directory
if it is relative. -/
def reserve (machine : Machine) (directory : Octets) (stem : String) :
    Except Kernel.Fault Octets × Machine :=
  let base? : Except Kernel.Fault Octets :=
    if isAbsolute directory then .ok directory
    else
      match machine.directory.name? with
      | some name => .ok (Lookup.join name directory)
      | none => .error (.system .noEntry)
  match base? with
  | .error fault => (.error fault, machine)
  | .ok base =>
    match createUnused machine.files machine.directory base (.ofString stem)
        (machine.files.entries.length + 1) machine.suffix with
    | .error fault => (.error fault, machine)
    | .ok (name, files) => (.ok name, { machine with files, suffix := machine.suffix + 1 })

def remove (machine : Machine) (path : Octets) : Except Kernel.Fault Unit × Machine :=
  match machine.files.unlink machine.directory path with
  | .error errno => (.error (.atPath (.system errno) path), machine)
  | .ok files => (.ok (), { machine with files })

/-! ### Waiting -/

def later (machine : Machine) : Machine :=
  { machine with pending := [], arrived := machine.arrived ++ machine.pending }

/-! ### Answers -/

def answer : (r : Request) → Machine → r.Reply × Machine
  | .log event, machine => ((), machine.log event)
  | .selectLog filter, machine => ((), { machine with filter := some filter })
  | .load name, machine => machine.load name
  | .call _ call, machine =>
    let (natives, reply) := machine.natives.call call
    (reply, { machine with natives })
  | .unload library, machine =>
    let (natives, reply) := machine.natives.unload library
    (reply, { machine with natives })
  | .discard library, machine =>
    ((), { machine with natives := machine.natives.discard library })
  | .find name searchPath, machine => (machine.find name searchPath, machine)
  | .reserve directory stem, machine => machine.reserve directory stem
  | .spawn program arguments, machine => machine.spawn program arguments
  | .runToEnd program arguments, machine => machine.runToEnd program arguments
  | .signal pid signal, machine => machine.signal pid signal
  | .wait pid, machine => machine.wait pid
  | .remove path, machine => machine.remove path
  | .read path, machine => (machine.files.read machine.directory path, machine)
  | .environment name, machine => (machine.variableValue? name, machine)
  | .catchSignal _, machine => (.ok (), machine)
  | .awaitSignal, machine => (machine.pending.headD machine.arriving, machine.later)
  | .pause seconds, machine => ((), if seconds = 0 then machine else machine.later)

def run {α : Type} (machine : Machine) (procedure : Procedure α) : α × Machine :=
  procedure.run answer machine

/-- Runs a procedure on a machine as a process that signals can end. -/
def runExposed {α : Type} (machine : Machine) (procedure : Procedure α) :
    Except Kernel.Signal α × Machine :=
  procedure.runExposed answer arrived [] machine

/-! ### A new machine -/

def systemTools : List (String × Tool) := [
  ("sh", .shell), ("dash", .shell), ("bash", .shell), ("true", .succeed), ("false", .fail),
  ("sleep", .sleep), ("echo", .echo), ("printf", .print), ("cat", .concatenate), ("test", .test),
  ("[", .test), ("kill", .signal), ("env", .launcher), ("rm", .remove), ("touch", .touch),
  ("mkdir", .makeDirectory), ("rmdir", .removeDirectory), ("cp", .copy), ("mv", .move),
  ("ln", .link), ("chmod", .permit), ("basename", .baseName), ("dirname", .directoryName),
  ("pwd", .workingDirectory), ("seq", .count), ("head", .first)]

/-- The programs of the system of which nothing is seen but that they are there. -/
def inertTools : List String := [
  "awk", "cut", "date", "expr", "find", "grep", "hostname", "id", "ls", "nohup", "perl", "readlink",
  "realpath", "sed", "sort", "stat", "tail", "tee", "timeout", "tr", "uname", "wc", "whoami", "xargs"]

def systemFiles : Files :=
  let tools := systemTools ++ inertTools.map fun name => (name, .inert)
  let place (name : String) : Path := Path.ofName (.ofString name)
  let empty : Files := ⟨[]⟩
  let files := ["/tmp", "/usr/bin", "/usr/lib/x86_64-linux-gnu", "/dev"].foldl
    (fun files name => files.makeDirectories (place name)) empty
  let files := tools.foldl
    (fun files (name, tool) => files.put (place ("/usr/bin/" ++ name)) (.program tool)) files
  let files := files.put (place "/bin") (.link (.ofString "usr/bin"))
  let files := files.put (place "/lib") (.link (.ofString "usr/lib"))
  let files := files.put (place "/usr/lib/x86_64-linux-gnu/libc.so.6") (.library [])
  files.put (place "/dev/null") .sink

def ownPid : Nat := 4096

def otherPid : Nat := 4095

def fresh (source : Source) (lookup : Lookup) (directory : Path) : Machine where
  files := systemFiles.makeDirectories directory
  directory := ⟨directory, false⟩
  environment := [(.ofString "PATH", .ofString "/usr/bin:/bin")]
  lookup
  processes := Processes.fresh otherPid ownPid
  natives := Natives.fresh source
  events := []
  filter := none
  suffix := 0
  arriving := .terminate
  pending := []
  arrived := []

end Machine

end HostEngine
