import HostEngine.Proofs.Session.Startup
import HostEngine.Proofs.Session.Teardown
/-!
# The program of a session

A start that found a program starts no other, and that is what the session's child runs
(`Startup.of_found`). A shutdown asks only this program to terminate
(`asksChild_of_mem_teardown`).
-/
set_option autoImplicit false

namespace HostEngine

namespace Session

variable {library : Native.Library} {program path : Octets} {done : List Exchange}
  {connected : Except Failure Connection}

end Session

end HostEngine
