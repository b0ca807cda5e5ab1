import HostEngine.Failure
/-!
Targets of a connection: an address for the native library and the flag that says whether it is the
path of a Unix socket. No target holds a NUL, so the whole address reaches the library.
-/
set_option autoImplicit false

namespace HostEngine

/-- An address without NUL, and a flag that is nonzero when it is the path of a Unix socket. -/
structure Target where
  octets : Octets
  flag : UInt32
  nulFree : octets.hasNul = false
  deriving DecidableEq, Repr

namespace Target

def ofOctets? (octets : Octets) (flag : UInt32) : Option Target :=
  if nulFree : octets.hasNul = false then some ⟨octets, flag, nulFree⟩ else none

def ofAddress (address : String) (flag : UInt32) : Except Failure Target :=
  match ofOctets? (.ofString address) flag with
  | some target => .ok target
  | none => .error (.arguments ("address contains a NUL byte: " ++ Quoted.text address))

def ofSocketPath (path : Octets) : Except Failure Target :=
  match ofOctets? path 1 with
  | some target => .ok target
  | none => .error (.arguments ("socket path contains a NUL byte: " ++ path.shown))

/-- The socket flag that a text gives: an unsigned decimal below 2^32. -/
def readFlag (text : String) : Except NumberFault UInt32 :=
  (readUnsigned UInt32.size text).map UInt32.ofNat

/-- The target given by an address and a socket flag; further arguments are ignored. -/
def ofArgs : List String → Except Failure Target
  | address :: flag :: _ =>
    match readFlag flag with
    | .error fault => .error (.arguments ("error parsing " ++ flag ++ ": " ++ fault.message))
    | .ok value => ofAddress address value
  | _ => .error (.arguments "missing address/port")

/-- The address as text; empty if it is not text. -/
def address (target : Target) : String := target.octets.text?.getD ""

/-- The target as text, with a scheme that tells the two kinds of address apart. -/
def text (target : Target) : String :=
  (if target.flag != 0 then "unix" else "tcp") ++ "://" ++ target.octets.shown

end Target

end HostEngine
