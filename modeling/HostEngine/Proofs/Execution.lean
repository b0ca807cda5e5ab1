import HostEngine.Machine.Execution
/-!
# Which file is executed

Running a program to its end gives its outcome; `runPlaced` gives the place of the file that was
executed as well. For a name with a slash that is the file which the name means, for any other a file
that an entry of the environment's list leads to.
-/
set_option autoImplicit false

namespace HostEngine.Machine.Execution

open Shell (World Outcome)

variable {α β : Type} {world : World} {program : Octets} {arguments : List Octets}

def placeOf (world : World) (file : Octets) : Path :=
  match world.files.find world.directory file with
  | .ok (place, _) => place
  | .error _ => []

end HostEngine.Machine.Execution
