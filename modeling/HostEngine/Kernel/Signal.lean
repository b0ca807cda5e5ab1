import HostEngine.Text.Digits
/-!
Signals and the ways a process can end.
-/
set_option autoImplicit false

namespace HostEngine.Kernel

structure Signal where
  number : Nat
  deriving DecidableEq, Repr

namespace Signal

def interrupt : Signal := ⟨2⟩
def kill : Signal := ⟨9⟩
def pipe : Signal := ⟨13⟩
def terminate : Signal := ⟨15⟩
def child : Signal := ⟨17⟩
def resume : Signal := ⟨18⟩
def halt : Signal := ⟨19⟩
def terminalStop : Signal := ⟨20⟩
def terminalInput : Signal := ⟨21⟩
def terminalOutput : Signal := ⟨22⟩
def urgent : Signal := ⟨23⟩
def windowChange : Signal := ⟨28⟩

/-- The names of the standard signals, without their common beginning. -/
def names : List (Nat × String) := [
  (1, "HUP"), (2, "INT"), (3, "QUIT"), (4, "ILL"), (5, "TRAP"), (6, "ABRT"), (7, "BUS"),
  (8, "FPE"), (9, "KILL"), (10, "USR1"), (11, "SEGV"), (12, "USR2"), (13, "PIPE"), (14, "ALRM"),
  (15, "TERM"), (16, "STKFLT"), (17, "CHLD"), (18, "CONT"), (19, "STOP"), (20, "TSTP"),
  (21, "TTIN"), (22, "TTOU"), (23, "URG"), (24, "XCPU"), (25, "XFSZ"), (26, "VTALRM"),
  (27, "PROF"), (28, "WINCH"), (29, "IO"), (30, "PWR"), (31, "SYS")]

def name? (signal : Signal) : Option String :=
  (names.lookup signal.number).map ("SIG" ++ ·)

/-- The number above those of all signals. -/
def bound : Nat := 65

/-- The numbers of the signals without a meaning of their own, which have names by their distance
from the first or the last. -/
def freeFirst : Nat := 34

/-- The signal with a short name, such as `TERM`, or one of the free ones. -/
def ofName? (name : String) : Option Signal :=
  let free : List (Nat × String) :=
    (List.range (bound - freeFirst)).map fun n =>
      (freeFirst + n,
        if n = 0 then "RTMIN" else if n < 16 then "RTMIN+" ++ decimal n
        else if n = 30 then "RTMAX" else "RTMAX-" ++ decimal (30 - n))
  ((names ++ free).find? (·.2 = name)).map fun (number, _) => ⟨number⟩

/-- Whether a process that does nothing about the signal goes on running. -/
def isHarmless (signal : Signal) : Bool :=
  signal == child || signal == resume || signal == urgent || signal == windowChange

/-- Whether a process that does nothing about the signal is stopped by it. -/
def isStopping (signal : Signal) : Bool :=
  signal == halt || signal == terminalStop || signal == terminalInput || signal == terminalOutput

end Signal

inductive Exit where
  | code (code : Nat)
  | signal (signal : Signal)
  deriving DecidableEq, Repr

namespace Exit

def isSuccess : Exit → Bool
  | code n => n = 0
  | signal _ => false

def text : Exit → String
  | code n => "exit status: " ++ decimal n
  | signal s =>
    match s.name? with
    | some name => "signal: " ++ decimal s.number ++ " (" ++ name ++ ")"
    | none => "signal: " ++ decimal s.number

def code? : Exit → Option Nat
  | code n => some n
  | signal _ => none

def signal? : Exit → Option Nat
  | code _ => none
  | signal s => some s.number

end Exit

end HostEngine.Kernel
