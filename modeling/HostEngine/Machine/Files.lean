import HostEngine.Kernel.Fault
/-!
Files of a machine: directories, files, symbolic links and the programs and libraries that come with
the system. Names are resolved from the working directory or the root, through at most forty links.
-/
set_option autoImplicit false

namespace HostEngine.Machine

/-- A resolved place: the names that lead to it from the root. -/
abbrev Path := List Octets

/-- Programs that come with the system; an inert one does nothing that can be seen. -/
inductive Tool where
  | shell
  | succeed
  | fail
  | sleep
  | echo
  | print
  | concatenate
  | test
  | signal
  | launcher
  | remove
  | touch
  | makeDirectory
  | removeDirectory
  | copy
  | move
  | link
  | permit
  | baseName
  | directoryName
  | workingDirectory
  | count
  | first
  | inert
  deriving DecidableEq, Repr

inductive Entry where
  | directory
  | file (executable : Bool) (content : Octets)
  | link (target : Octets)
  | program (tool : Tool)
  | library (symbols : List String)
  | sink
  deriving DecidableEq, Repr

def Entry.isExecutable : Entry → Bool
  | .file executable _ => executable
  | .program _ | .library _ => true
  | .directory | .link _ | .sink => false

/-- The files of a machine; the root directory is always there. -/
structure Files where
  entries : List (Path × Entry)
  deriving Repr

def slash : UInt8 := 0x2F

def dot : UInt8 := 0x2E

def isAbsolute (name : Octets) : Bool := name.head? == some slash

namespace Path

def name (path : Path) : Octets :=
  match path with
  | [] => [slash]
  | _ => path.flatMap (slash :: ·)

def ofName (name : Octets) : Path :=
  (name.splitOn slash).filter fun part => part ≠ [] && part ≠ [dot]

end Path

/-- Where a process works: a place, which may have been removed since. -/
structure Directory where
  place : Path
  removed : Bool
  deriving DecidableEq, Repr

def Directory.name? (directory : Directory) : Option Octets :=
  if directory.removed then none else some directory.place.name

namespace Files

def entry? (files : Files) (path : Path) : Option Entry :=
  if path = [] then some .directory else files.entries.lookup path

def erase (files : Files) (path : Path) : Files :=
  ⟨files.entries.filter fun (other, _) => other ≠ path⟩

def put (files : Files) (path : Path) (entry : Entry) : Files :=
  ⟨(files.erase path).entries ++ [(path, entry)]⟩

def makeDirectories (files : Files) (path : Path) : Files :=
  (List.range (path.length + 1)).foldl (fun files n =>
    match files.entry? (path.take n) with
    | some _ => files
    | none => files.put (path.take n) .directory) files

def install (files : Files) (path : Path) (entry : Entry) : Files :=
  (files.makeDirectories path.dropLast).put path entry

def names (files : Files) (path : Path) : List Octets :=
  files.entries.filterMap fun (other, _) =>
    if other.dropLast = path then other.getLast? else none

/-- Resolves the names that are left, from a place on. The last name need not exist; a link in its
place is followed on demand. -/
def walk (files : Files) (follow : Bool) (links : Nat) (place : Path) (names : List Octets) :
    Except Kernel.Errno (Path × Option Entry) :=
  match names with
  | [] => .ok (place, files.entry? place)
  | name :: rest =>
    match files.entry? place with
    | none => .error .noEntry
    | some .directory =>
      if name = [] || name = [dot] then walk files follow links place rest
      else if name = [dot, dot] then walk files follow links place.dropLast rest
      else if 255 < name.length then .error .nameTooLong
      else
        match files.entry? (place ++ [name]) with
        | none =>
          if rest.all (· = []) then .ok (place ++ [name], none) else .error .noEntry
        | some (.link target) =>
          if rest = [] && !follow then .ok (place ++ [name], some (.link target))
          else
            match links with
            | 0 => .error .tooManyLinks
            | links + 1 =>
              walk files follow links (if isAbsolute target then [] else place)
                (target.splitOn slash ++ rest)
        | some _ => walk files follow links (place ++ [name]) rest
    | some _ => .error .notDirectory
termination_by (links, names.length)

/-- Resolves names from a directory that is gone: it holds nothing, but the way up is still there,
also if what it leads to is gone as well. -/
def walkOut (files : Files) (follow : Bool) (place : Path) :
    List Octets → Except Kernel.Errno (Path × Option Entry)
  | [] => .ok (place, some .directory)
  | name :: rest =>
    if name = [] || name = [dot] then walkOut files follow place rest
    else if name = [dot, dot] then
      if files.entry? place.dropLast = some .directory then
        files.walk follow 40 place.dropLast rest
      else walkOut files follow place.dropLast rest
    else .error .noEntry

def locate (files : Files) (follow : Bool) (directory : Directory) (name : Octets) :
    Except Kernel.Errno (Path × Option Entry) :=
  if name = [] then .error .noEntry
  else if 4096 ≤ name.length then .error .nameTooLong
  else if isAbsolute name then files.walk follow 40 [] (name.splitOn slash)
  else if directory.removed then files.walkOut follow directory.place (name.splitOn slash)
  else files.walk follow 40 directory.place (name.splitOn slash)

/-- What a file name stands for, links followed. -/
def find (files : Files) (directory : Directory) (name : Octets) :
    Except Kernel.Errno (Path × Entry) :=
  match files.locate true directory name with
  | .error errno => .error errno
  | .ok (_, none) => .error .noEntry
  | .ok (path, some entry) => .ok (path, entry)

def read (files : Files) (directory : Directory) (name : Octets) : Except Kernel.Fault Octets :=
  if name.hasNul then .error .nulInName
  else
    match files.find directory name with
    | .error errno => .error (.system errno)
    | .ok (_, .directory) => .error (.system .isDirectory)
    | .ok (_, .file _ content) => .ok content
    | .ok (_, .sink) => .ok []
    | .ok (_, .program _) | .ok (_, .library _) | .ok (_, .link _) => .ok [0x7F]

/-- Opens a name for writing, with the old content kept or not, and returns the place to write to.
A name that is free becomes a file; what is neither file nor directory takes all and keeps
nothing. -/
def openToWrite (files : Files) (directory : Directory) (name : Octets) (keep : Bool) :
    Except Kernel.Errno (Files × Option Path) :=
  match files.locate true directory name with
  | .error errno => .error errno
  | .ok (_, some .directory) => .error .isDirectory
  | .ok (path, some (.file executable content)) =>
    .ok (files.put path (.file executable (if keep then content else [])), some path)
  | .ok (_, some _) => .ok (files, none)
  | .ok (path, none) => .ok (files.put path (.file false []), some path)

def appendTo (files : Files) (path : Path) (octets : Octets) : Files :=
  match files.entry? path with
  | some (.file executable content) => files.put path (.file executable (content ++ octets))
  | _ => files

def create (files : Files) (directory : Directory) (name : Octets) :
    Except Kernel.Errno (Files × Path) :=
  match files.locate false directory name with
  | .error errno => .error errno
  | .ok (_, some _) => .error .alreadyThere
  | .ok (path, none) => .ok (files.put path (.file false []), path)

def unlink (files : Files) (directory : Directory) (name : Octets) : Except Kernel.Errno Files :=
  match files.locate false directory name with
  | .error errno => .error errno
  | .ok (_, none) => .error .noEntry
  | .ok (_, some .directory) => .error .isDirectory
  | .ok (path, some _) => .ok (files.erase path)

end Files

end HostEngine.Machine
