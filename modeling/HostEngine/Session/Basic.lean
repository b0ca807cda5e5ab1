import HostEngine.Mode
import HostEngine.Target
import HostEngine.Native.Call
/-!
Running sessions: a loaded library and a connection. How a session was started decides what it
holds, and with that how it is shut down.
-/
set_option autoImplicit false

namespace HostEngine

structure Link where
  handle : Native.Handle
  target : Target
  deriving DecidableEq, Repr

/-- A host engine child: the program it runs, and the path reserved for its socket. -/
structure Child where
  pid : UInt32
  executable : Octets
  socketPath : Octets
  deriving DecidableEq, Repr

inductive Connection where
  /-- A host engine inside this process. -/
  | embedded (handle : Native.Handle)
  /-- A host engine that somebody else runs. -/
  | standalone (link : Link)
  /-- A host engine that runs as a child of this process. -/
  | managedChild (link : Link) (child : Child)
  deriving DecidableEq, Repr

namespace Connection

def mode : Connection → Mode
  | embedded _ => .embedded
  | standalone _ => .standalone
  | managedChild _ _ => .managedChild

def handle : Connection → Native.Handle
  | embedded handle => handle
  | standalone link | managedChild link _ => link.handle

def child? : Connection → Option Child
  | embedded _ | standalone _ => none
  | managedChild _ child => some child

end Connection

structure Session where
  library : Native.Library
  connection : Connection
  deriving DecidableEq, Repr

namespace Session

def mode (session : Session) : Mode := session.connection.mode

def handle (session : Session) : Native.Handle := session.connection.handle

def child? (session : Session) : Option Child := session.connection.child?

end Session

/-! ### Descriptions -/

def describeFields (name : String) (fields : List (String × String)) : String :=
  name ++ " \x7b " ++ ", ".intercalate (fields.map fun (key, value) => key ++ ": " ++ value) ++
    " \x7d"

def Native.Handle.describe (handle : Native.Handle) : String :=
  "ConnectionHandle(" ++ decimal handle.raw.toNat ++ ")"

def Target.describe (target : Target) : String :=
  describeFields "StandaloneTarget" [("address", Quoted.native target.octets),
    ("address_is_unix_socket", decimal target.flag.toNat)]

def Link.describe (link : Link) : String :=
  describeFields "StandaloneConnection"
    [("handle", link.handle.describe), ("target", link.target.describe)]

/-- A description of a session without a child. -/
def Session.describe? (session : Session) : Option String :=
  let whole (mode connection : String) : String :=
    describeFields "Session" [("mode", mode), ("library", Quoted.text session.library.name),
      ("connection", connection)]
  match session.connection with
  | .embedded handle =>
    some <| whole "Embedded" <|
      "Embedded(" ++ describeFields "EmbeddedConnection" [("handle", handle.describe)] ++ ")"
  | .standalone link => some (whole "Standalone" ("Standalone(" ++ link.describe ++ ")"))
  | .managedChild _ _ => none

end HostEngine
