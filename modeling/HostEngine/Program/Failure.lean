import HostEngine.Text.Digits
/-!
Why a process could not be found, started, run or signalled.
-/
set_option autoImplicit false

namespace HostEngine.Program

inductive Failure where
  | notFound (executable reason : String)
  | spawn (executable reason : String)
  | command (executable reason : String)
  | signal (pid : UInt32) (reason : String)
  | configuration (id reason : String)
  deriving DecidableEq, Repr

namespace Failure

def reason : Failure → String
  | notFound _ reason | spawn _ reason | command _ reason | signal _ reason
  | configuration _ reason => reason

def message : Failure → String
  | notFound executable reason => "Executable not found: " ++ executable ++ " - " ++ reason
  | spawn executable reason => "Process spawn failed: " ++ executable ++ " - " ++ reason
  | command executable reason => "Command failed: " ++ executable ++ " - " ++ reason
  | signal pid reason => "Signal failed: pid " ++ decimal pid.toNat ++ " - " ++ reason
  | configuration id reason => "Process configuration error: " ++ id ++ " - " ++ reason

end Failure

end HostEngine.Program
