import HostEngine.Machine.Basic
/-!
Files that a scenario starts with.
-/
set_option autoImplicit false

namespace HostEngine.Scenario


inductive Content where
  | directory
  | file (executable : Bool) (content : Octets)
  | link (target : Octets)
  deriving DecidableEq, Repr

/-- Whether permissions, as the digits of an octal number, let anybody execute. -/
def isExecutableMode (digits : String) : Bool :=
  digits.toList.any fun c => (c.toNat - '0'.toNat) % 2 = 1

def placeOf (machine : Machine) (name : Octets) : Machine.Path :=
  let path := Machine.Path.ofName name
  match path.getLast? with
  | none => path
  | some last =>
    match machine.files.find machine.directory (Machine.Path.name path.dropLast) with
    | .ok (above, .directory) => above ++ [last]
    | _ => path

def place (machine : Machine) (name : Octets) (content : Content) : Machine :=
  let path := placeOf machine name
  { machine with files :=
      match content with
      | .directory => machine.files.makeDirectories path
      | .file executable content => machine.files.install path (.file executable content)
      | .link target => machine.files.install path (.link target) }

def enter (machine : Machine) (name : Octets) (removed : Bool) : Machine :=
  let path := placeOf machine name
  let machine := { machine with files := machine.files.makeDirectories path }
  let files := if removed then machine.files.erase path else machine.files
  { machine with files, directory := ⟨path, removed⟩ }

end HostEngine.Scenario
