import HostEngine.Log.Filter
import HostEngine.Kernel.Fault
import HostEngine.Kernel.Signal
import HostEngine.Native.Call
/-!
Procedures: what the library does to its surroundings, as a tree of requests. A procedure says which
request comes next for every reply to the ones before; who answers, and how, is left open. So one
definition runs on a real machine, on a modelled one, and against arbitrary replies.
-/
set_option autoImplicit false

namespace HostEngine

/-- A request to the surroundings. -/
inductive Request where
  | log (event : Log.Event)
  | selectLog (filter : Log.Filter)
  | load (name : String)
  | call (library : Native.Library) (called : Native.Call)
  /-- Closes a library and reports whether that succeeded. -/
  | unload (library : Native.Library)
  /-- Lets go of a library without a report. -/
  | discard (library : Native.Library)
  /-- Finds a program by its name, in the given search list or in the environment's. -/
  | find (name : String) (searchPath : Option String)
  /-- Creates an empty file under a new name in a directory. -/
  | reserve (directory : Octets) (stem : String)
  /-- Starts a program in a process group of its own. -/
  | spawn (program : Octets) (arguments : List Octets)
  | runToEnd (program : Octets) (arguments : List Octets)
  /-- Signals a process, or only asks for it. -/
  | signal (pid : Int32) (sent : Option Kernel.Signal)
  | wait (pid : UInt32)
  | remove (path : Octets)
  | read (path : Octets)
  | environment (name : String)
  | catchSignal (signal : Kernel.Signal)
  | awaitSignal
  | pause (seconds : UInt64)

@[reducible] def Request.Reply : Request → Type
  | log _ => Unit
  | selectLog _ => Unit
  | load _ => Except String Native.Library
  | call _ called => Except Native.Failure called.Value
  | unload _ => Except String Unit
  | discard _ => Unit
  | find _ _ => Except String Octets
  | reserve _ _ => Except Kernel.Fault Octets
  | spawn _ _ => Except Kernel.Fault UInt32
  | runToEnd _ _ => Except Kernel.Fault Kernel.Exit
  | signal _ _ => Except Kernel.Errno Unit
  | wait _ => Except Kernel.Fault Kernel.Exit
  | remove _ => Except Kernel.Fault Unit
  | read _ => Except Kernel.Fault Octets
  | environment _ => Option Octets
  | catchSignal _ => Except Kernel.Fault Unit
  | awaitSignal => Kernel.Signal
  | pause _ => Unit

/-- A computation that makes requests: it is done, or it makes one and goes on with the reply. -/
inductive Procedure (α : Type) where
  | done (result : α)
  | request (r : Request) (next : r.Reply → Procedure α)

namespace Procedure

variable {α β : Type}

def andThen : Procedure α → (α → Procedure β) → Procedure β
  | done result, go => go result
  | request r next, go => request r fun reply => (next reply).andThen go

instance : Monad Procedure where
  pure := done
  bind := andThen

@[simp] theorem pure_bind (a : α) (go : α → Procedure β) : (pure a >>= go) = go a := rfl

theorem request_bind (r : Request) (next : r.Reply → Procedure α) (go : α → Procedure β) :
    (request r next >>= go) = request r fun reply => next reply >>= go := rfl

theorem bind_done (p : Procedure α) : (p >>= done) = p := by
  induction p with
  | done result => rfl
  | request r next ih =>
    rw [request_bind]
    exact congrArg (request r) (funext ih)

theorem bind_bind {γ : Type} (p : Procedure α) (go : α → Procedure β) (on : β → Procedure γ) :
    (p >>= go) >>= on = p >>= fun a => go a >>= on := by
  induction p with
  | done result => rfl
  | request r next ih =>
    rw [request_bind, request_bind, request_bind]
    exact congrArg (request r) (funext ih)

instance : LawfulMonad Procedure :=
  LawfulMonad.mk' Procedure bind_done (fun _ _ => rfl) bind_bind

def perform (r : Request) : Procedure r.Reply := request r done

@[simp] theorem perform_bind (r : Request) (go : r.Reply → Procedure β) :
    (perform r >>= go) = request r go := rfl

def log (level : Log.Level) (origin : Log.Origin) (message : String) : Procedure Unit :=
  perform (.log ⟨level, origin, message⟩)

/-- Runs a procedure on surroundings with a state: each request is answered and changes the
state. -/
def run {σ : Type} (answer : (r : Request) → σ → r.Reply × σ) : Procedure α → σ → α × σ
  | done result, state => (result, state)
  | request r next, state => (next (answer r state).1).run answer (answer r state).2

end Procedure

end HostEngine
