import HostEngine.Text.Octets
import HostEngine.Native.Handle
import HostEngine.Native.Connect
import HostEngine.Native.Status
/-!
Calls of the library's lifecycle functions, and what each returns when it succeeds.
-/
set_option autoImplicit false

namespace HostEngine.Native

/-- How an embedded host engine is driven: by itself, or by its caller. -/
inductive Operation where
  | automatic
  | manual
  deriving DecidableEq, Repr

def Operation.number : Operation → Int32
  | .automatic => 1
  | .manual => 2

/-- A loaded library: the instance that calls go to, and the name it was loaded by. -/
structure Library where
  id : Nat
  name : String
  deriving DecidableEq, Repr

inductive Call where
  | init
  | shutdown
  | startEmbedded (operation : Operation)
  | stopEmbedded (handle : Handle)
  | connect (address : Octets) (params : ConnectParams)
  | disconnect (handle : Handle)
  deriving DecidableEq, Repr

namespace Call

/-- What a call returns when it succeeds: a handle from those that open, nothing from the others. -/
@[reducible] def Value : Call → Type
  | startEmbedded _ | connect _ _ => Handle
  | init | shutdown | stopEmbedded _ | disconnect _ => Unit

/-- The value of a successful call, given the handle that an opening call hands out. -/
def value (handle : Handle) : (call : Call) → call.Value
  | startEmbedded _ | connect _ _ => handle
  | init | shutdown | stopEmbedded _ | disconnect _ => ()

def handle? : (call : Call) → call.Value → Option Handle
  | startEmbedded _, handle | connect _ _, handle => some handle
  | init, _ | shutdown, _ | stopEmbedded _, _ | disconnect _, _ => none

inductive Function where
  | init
  | shutdown
  | startEmbedded
  | stopEmbedded
  | connect
  | disconnect
  deriving DecidableEq, Repr

def function : Call → Function
  | init => .init
  | shutdown => .shutdown
  | startEmbedded _ => .startEmbedded
  | stopEmbedded _ => .stopEmbedded
  | connect _ _ => .connect
  | disconnect _ => .disconnect

def Function.symbol : Function → String
  | .init => "dcgmInit"
  | .shutdown => "dcgmShutdown"
  | .startEmbedded => "dcgmStartEmbedded"
  | .stopEmbedded => "dcgmStopEmbedded"
  | .connect => "dcgmConnect_v2"
  | .disconnect => "dcgmDisconnect"

/-- All lifecycle functions, in the order in which their symbols are resolved. -/
def Function.all : List Function :=
  [.init, .shutdown, .startEmbedded, .stopEmbedded, .connect, .disconnect]

end Call

def describeSymbol : String := "errorString"

def symbols : List String := Call.Function.all.map Call.Function.symbol ++ [describeSymbol]

def defaultLibrary : String := "libdcgm.so.4"

end HostEngine.Native
