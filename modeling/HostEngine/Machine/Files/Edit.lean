import HostEngine.Machine.Files
/-!
Changes of files by name: directories made and removed, trees moved and removed, and permissions.
-/
set_option autoImplicit false

namespace HostEngine.Machine.Files

def notEmpty : Kernel.Errno := ⟨39⟩

def makeDirectory (files : Files) (directory : Directory) (name : Octets) :
    Except Kernel.Errno Files :=
  match files.locate false directory name with
  | .error errno => .error errno
  | .ok (_, some _) => .error .alreadyThere
  | .ok (path, none) => .ok (files.put path .directory)

def namesTo (name : Octets) : List Octets :=
  let parts := name.splitOn slash
  ((List.range parts.length).map fun n =>
    List.intercalate [slash] (parts.take (n + 1))).filter (· ≠ [])

/-- Makes a directory and those that lead to it, as far as they are not there. -/
def makeAllDirectories (files : Files) (directory : Directory) (name : Octets) :
    Except Kernel.Errno Files :=
  (namesTo name).foldlM (fun files name =>
    match files.find directory name with
    | .ok (_, .directory) => .ok files
    | .ok _ => .error .notDirectory
    | .error _ => files.makeDirectory directory name) files

def removeDirectory (files : Files) (directory : Directory) (name : Octets) :
    Except Kernel.Errno Files :=
  match files.locate false directory name with
  | .error errno => .error errno
  | .ok (_, none) => .error .noEntry
  | .ok (path, some .directory) =>
    if files.names path = [] then .ok (files.erase path) else .error notEmpty
  | .ok (_, some _) => .error .notDirectory

/-- Removes whatever stands under a name, with all that is in it. -/
def removeTree (files : Files) (directory : Directory) (name : Octets) :
    Except Kernel.Errno Files :=
  match files.locate false directory name with
  | .error errno => .error errno
  | .ok (_, none) => .error .noEntry
  | .ok (path, some _) => .ok ⟨files.entries.filter fun (other, _) => !path.isPrefixOf other⟩

/-- The place that a name means as a destination: inside it, if it is a directory's. -/
def destination (files : Files) (directory : Directory) (source name : Octets) :
    Except Kernel.Errno (Path × Option Entry) :=
  match files.locate true directory name with
  | .ok (_, some .directory) =>
    files.locate false directory (name ++ slash :: (Path.ofName source).getLast?.getD [])
  | .ok (_, some _) => files.locate false directory name
  | result => result

def move (files : Files) (directory : Directory) (source name : Octets) :
    Except Kernel.Errno Files :=
  match files.locate false directory source, files.destination directory source name with
  | .error errno, _ | _, .error errno => .error errno
  | .ok (_, none), _ => .error .noEntry
  | .ok (path, some _), .ok (target, _) =>
    let moved : List (Path × Entry) := files.entries.filterMap fun (other, entry) =>
      if path.isPrefixOf other then some (target ++ other.drop path.length, entry) else none
    let kept := files.entries.filter fun (other, _) =>
      !path.isPrefixOf other && other ≠ target
    .ok ⟨kept ++ moved⟩

def copy (files : Files) (directory : Directory) (source name : Octets) :
    Except Kernel.Errno Files :=
  match files.find directory source, files.destination directory source name with
  | .error errno, _ | _, .error errno => .error errno
  | .ok (_, .directory), _ => .error .isDirectory
  | .ok (_, .file executable content), .ok (target, some (.file before _)) =>
    .ok (files.put target (.file (before || executable && before) content))
  | .ok (_, entry), .ok (target, none) =>
    .ok (files.put target (if entry = .sink then .file false [] else entry))
  | .ok _, .ok (_, some _) => .error .alreadyThere

def link (files : Files) (directory : Directory) (isSymbolic : Bool) (source name : Octets) :
    Except Kernel.Errno Files :=
  match files.destination directory source name with
  | .error errno => .error errno
  | .ok (_, some _) => .error .alreadyThere
  | .ok (target, none) =>
    if isSymbolic then .ok (files.put target (.link source))
    else
      match files.find directory source with
      | .error errno => .error errno
      | .ok (_, .directory) => .error .notPermitted
      | .ok (_, entry) => .ok (files.put target entry)

def setExecutable (files : Files) (directory : Directory) (name : Octets) (executable : Bool) :
    Except Kernel.Errno Files :=
  match files.find directory name with
  | .error errno => .error errno
  | .ok (path, .file _ content) => .ok (files.put path (.file executable content))
  | .ok _ => .ok files

end HostEngine.Machine.Files
