import HostEngine.Text.Digits
/-!
Status codes of the native library, and the failures they turn into. A failure keeps the code and
carries the library's own description, or a general one when the library has none.
-/
set_option autoImplicit false

namespace HostEngine.Native

structure Failure where
  code : Int32
  message : String
  deriving DecidableEq, Repr

def Failure.text (failure : Failure) : String :=
  failure.message ++ " (status " ++ signedDecimal failure.code.toInt ++ ")"

structure Status where
  code : Int32
  deriving DecidableEq, Repr

namespace Status

def ok : Status := ⟨0⟩
def badParameter : Status := ⟨-1⟩
def genericError : Status := ⟨-3⟩
def initError : Status := ⟨-7⟩
def timeout : Status := ⟨-11⟩
def connectionNotValid : Status := ⟨-21⟩

def isOk (status : Status) : Bool := status.code = 0

def text (status : Status) : String := signedDecimal status.code.toInt

def unknownMessage (status : Status) : String := "unknown DCGM error " ++ status.text

/-- The statuses for which a description is asked: none for success. -/
def asked (status : Status) : List Status := if status.isOk then [] else [status]

/-- The failure that a status amounts to, with the library's description; an empty description
counts as none. -/
def check (status : Status) (describe : Status → Option String) : Except Failure Unit :=
  if status.isOk then .ok ()
  else
    match describe status with
    | some message =>
      if message.isEmpty then .error ⟨status.code, status.unknownMessage⟩
      else .error ⟨status.code, message⟩
    | none => .error ⟨status.code, status.unknownMessage⟩

/-- What a failed status is reported with: its description, or a general text if that is missing or
empty. -/
def wording (status : Status) (description : Option String) : String :=
  match description with
  | some message => if message.isEmpty then status.unknownMessage else message
  | none => status.unknownMessage

theorem check_eq_error_iff (status : Status) (describe : Status → Option String)
    (failure : Failure) :
    status.check describe = .error failure ↔
      status.isOk = false ∧ failure = ⟨status.code, status.wording (describe status)⟩ := by
  unfold check wording
  cases h : status.isOk with
  | true => simp
  | false =>
    cases d : describe status with
    | none => simp [eq_comm]
    | some message => by_cases e : message.isEmpty = true <;> simp [e, eq_comm]

end Status

end HostEngine.Native
