import HostEngine.Text.Digits
/-!
Log events: a level, the part of the program an event comes from, and its message, as it is and as
it is printed.
-/
set_option autoImplicit false

namespace HostEngine.Log

inductive Level where
  | trace
  | debug
  | info
  | warn
  | error
  deriving DecidableEq, Repr

namespace Level

/-- A higher rank is a graver event. -/
def rank : Level → Nat
  | trace => 0
  | debug => 1
  | info => 2
  | warn => 3
  | error => 4

def name : Level → String
  | trace => "TRACE"
  | debug => "DEBUG"
  | info => "INFO"
  | warn => "WARN"
  | error => "ERROR"

end Level

inductive Origin where
  | control
  | manager
  | session
  | connection
  | standalone
  | embedded
  | managedChild
  | library
  | program
  deriving DecidableEq, Repr

/-- The name by which a log directive selects a part of the program; names nest by `::`. -/
def Origin.name : Origin → String
  | control => "hostengine_ctl"
  | manager => "dcgm_lifecycle::manager"
  | session => "dcgm_lifecycle::session"
  | connection => "dcgm_lifecycle::connection"
  | standalone => "dcgm_lifecycle::connection::standalone"
  | embedded => "dcgm_lifecycle::connection::embedded"
  | managedChild => "dcgm_lifecycle::connection::managed_child"
  | library => "dcgm_native::dynamic"
  | program => "dcgm_process::execute"

structure Event where
  level : Level
  origin : Origin
  message : String
  deriving DecidableEq, Repr

/-- A character as it is printed: controls that a terminal may act on are shown by their numbers,
while tabs and line ends, which only move on, stay as they are. -/
def printedChar (c : Char) : List Char :=
  if c = '\x07' || c = '\x08' || c = '\x0c' || c = '\x1b' || c = '\x7f' then
    ['\\', 'x', hexDigit (c.toNat / 16), hexDigit c.toNat]
  else if 0x80 ≤ c.toNat && c.toNat < 0xA0 then
    "\\u\x7b".toList ++ (hexadecimal c.toNat).toList ++ ['\x7d']
  else [c]

def Event.printed (event : Event) : String :=
  String.ofList (event.message.toList.flatMap printedChar)

end HostEngine.Log
