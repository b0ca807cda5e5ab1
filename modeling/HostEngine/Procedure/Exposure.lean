import HostEngine.Procedure
/-!
Procedures exposed to signals. A signal that the process does not catch ends it, so that the procedure
is left where it is. A signal is caught from the request for that on.
-/
set_option autoImplicit false

namespace HostEngine.Procedure

/-- The signal that is caught from a request on, if it is granted. -/
def caught? : (r : Request) → r.Reply → Option Kernel.Signal
  | .catchSignal signal, .ok _ => some signal
  | _, _ => none

/-- Runs a procedure on surroundings with a state, as a process that catches some signals. After
each request the state tells which signals have arrived; the first that is not caught ends the
process. -/
def runExposed {σ α : Type} (answer : (r : Request) → σ → r.Reply × σ)
    (arrived : σ → List Kernel.Signal) :
    List Kernel.Signal → Procedure α → σ → Except Kernel.Signal α × σ
  | _, done result, state => (.ok result, state)
  | caught, request r next, state =>
    let (reply, after) := answer r state
    match (arrived after).find? fun signal => !caught.contains signal with
    | some signal => (.error signal, after)
    | none =>
      runExposed answer arrived ((caught? r reply).toList ++ caught) (next reply) after

end HostEngine.Procedure
