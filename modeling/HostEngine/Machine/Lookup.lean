import HostEngine.Machine.Files
/-!
Finding a program by its name, and the file names that this is about. How a search goes is not
settled here: a lookup is a parameter of the machine.
-/
set_option autoImplicit false

namespace HostEngine.Machine

structure Lookup.Setting where
  files : Files
  directory : Directory
  environment : List (Octets × Octets)

/-- A way to look a program up by name, in the list that is given or else in the environment's. It
gives a file name, or says what is wrong. -/
abbrev Lookup := Lookup.Setting → Octets → Option Octets → Except String Octets

namespace Lookup

def colon : UInt8 := 0x3A

/-- The names in a file name, without empty ones and inner dots. A leading dot counts, and so does
the root. -/
def parts (name : Octets) : List Octets :=
  match name.splitOn slash with
  | [] => []
  | first :: rest =>
    let inner := rest.filter fun part => part ≠ [] && part ≠ [dot]
    if first = [] then (if rest = [] then [] else [slash] :: inner) else first :: inner

/-- Adds a part behind a file name; an absolute part replaces the name. -/
def join (base name : Octets) : Octets :=
  if isAbsolute name || base = [] then name
  else if base.getLast? = some slash then base ++ name
  else base ++ slash :: name

end Lookup

end HostEngine.Machine
