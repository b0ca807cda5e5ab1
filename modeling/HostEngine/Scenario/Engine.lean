import HostEngine.Machine.Basic
import HostEngine.Options
/-!
Host engines of a scenario: a script that does one thing when it is asked to terminate and another
when it is to serve, and that records how it was run. Library files of a scenario stand beside it.
-/
set_option autoImplicit false

namespace HostEngine.Scenario


structure Engine where
  name : String
  interpreter : String
  serve : String
  terminate : String
  deriving DecidableEq, Repr

def Engine.default : Engine :=
  ⟨defaultExecutable, "/bin/sh", "exec sleep 30", "exit 0"⟩

structure Layout where
  root : Octets
  deriving DecidableEq, Repr

namespace Layout

def below (layout : Layout) (name : String) : Octets :=
  layout.root ++ Machine.slash :: Octets.ofString name

def programs (layout : Layout) : Octets := layout.below "bin"

def scratch (layout : Layout) : Octets := layout.below "scratch"

def terminations (layout : Layout) : Octets := layout.below "terminations"

def record (layout : Layout) : Octets := layout.below "record"

def program (layout : Layout) (engine : Engine) : Octets :=
  layout.programs ++ Machine.slash :: Octets.ofString engine.name

def script (layout : Layout) (engine : Engine) : Octets :=
  .ofString ("#!" ++ engine.interpreter ++ "\nif [ \"$1\" = " ++ terminateArgument ++
    " ]; then\nprintf x >> ") ++ layout.terminations ++
  .ofString ("\n" ++ engine.terminate ++ "\nelse\nprintf '%s\\0' \"$$\" \"$@\" > ") ++
  layout.record ++ .ofString ("\n" ++ engine.serve ++ "\nfi\n")

end Layout

def installEngine (machine : Machine) (layout : Layout) (engine : Engine) : Machine :=
  let path := Machine.Path.ofName (layout.program engine)
  { machine with files := machine.files.install path (.file true (layout.script engine)) }

def contentOf (machine : Machine) (name : Octets) : Octets :=
  match machine.files.read machine.directory name with
  | .ok content => content
  | .error _ => []

def terminations (machine : Machine) (layout : Layout) : Nat :=
  (contentOf machine layout.terminations).length

def recorded (machine : Machine) (layout : Layout) : Octets × List Octets :=
  match ((contentOf machine layout.record).splitOn 0).dropLast with
  | [] => ([], [])
  | pid :: arguments => (pid, arguments)

def pathsIn (machine : Machine) (directory : Octets) : List String :=
  match machine.files.find machine.directory directory with
  | .ok (path, .directory) =>
    ((machine.files.names path).map fun name =>
      (Machine.Lookup.join directory name).shown).mergeSort fun a b => !(b < a)
  | _ => []

/-- The library files of a scenario: complete ones, one for every symbol that it lacks, and two that
are no libraries. -/
def installLibraries (machine : Machine) (directory : Octets) : Machine :=
  let place (name : String) : Machine.Path :=
    Machine.Path.ofName (directory ++ Machine.slash :: Octets.ofString name)
  let lacking (symbol : String) : Machine.Path × Machine.Entry :=
    (place ("no_" ++ symbol ++ ".so"), .library (Native.symbols.filter (· ≠ symbol)))
  let entries : List (Machine.Path × Machine.Entry) := [
    (place "full.so", .library Native.symbols),
    (place Native.defaultLibrary, .library Native.symbols),
    (place "garbage.so", .file false (List.replicate (2 * Machine.Natives.headerSize) 0x20)),
    (place "empty.so", .file false [])] ++ Native.symbols.map lacking
  let machine := machine.setVariable "LD_LIBRARY_PATH" (some directory)
  let install (files : Machine.Files) (entry : Machine.Path × Machine.Entry) : Machine.Files :=
    files.install entry.1 entry.2
  { machine with files := entries.foldl install machine.files }

end HostEngine.Scenario
