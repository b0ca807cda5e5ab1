import HostEngine.Native.Call
/-!
Calls as the exported functions of a library get them: by symbol, with numbers, strings and blocks of
parameters.
-/
set_option autoImplicit false

namespace HostEngine.Native

inductive Argument where
  | int (value : Int32)
  | handle (raw : UInt64)
  | string (octets : Octets)
  | params (params : ConnectParams)
  /-- The place where the function puts a handle. -/
  | out
  deriving DecidableEq, Repr

structure ExportedCall where
  symbol : String
  arguments : List Argument
  deriving DecidableEq, Repr

namespace Call

def arguments : Call → List Argument
  | init | shutdown => []
  | startEmbedded operation => [.int operation.number, .out]
  | stopEmbedded handle | disconnect handle => [.handle handle.raw]
  | connect address params => [.string address, .params params, .out]

def exported (call : Call) : ExportedCall := ⟨call.function.symbol, call.arguments⟩

end Call

end HostEngine.Native
