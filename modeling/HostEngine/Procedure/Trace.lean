import HostEngine.Procedure
/-!
Traces of procedures: the requests made, each with the reply it got. A procedure yields a trace and
a result when the replies in the trace lead it to that result; every run of it is such a case, and
the trace of two procedures in a row is the two traces in a row.
-/
set_option autoImplicit false

namespace HostEngine

structure Exchange where
  request : Request
  reply : request.Reply

namespace Procedure

variable {α β : Type}

/-- A procedure makes the requests of a trace, gets the replies in it, and ends with a result. -/
inductive Yields : Procedure α → List Exchange → α → Prop where
  | done (result : α) : Yields (done result) [] result
  | request (r : Request) (next : r.Reply → Procedure α) (reply : r.Reply)
      (trace : List Exchange) (result : α) (rest : Yields (next reply) trace result) :
      Yields (request r next) (⟨r, reply⟩ :: trace) result

theorem Yields.bind {p : Procedure α} {go : α → Procedure β} {first second : List Exchange} {a : α}
    {b : β} (hp : Yields p first a) (hgo : Yields (go a) second b) :
    Yields (p >>= go) (first ++ second) b := by
  induction hp with
  | done result => exact hgo
  | request r next reply trace result rest ih => exact .request r _ reply _ _ (ih hgo)

theorem Yields.exists_of_bind {p : Procedure α} {go : α → Procedure β} {trace : List Exchange}
    {b : β} (h : Yields (p >>= go) trace b) :
    ∃ first second a, trace = first ++ second ∧ Yields p first a ∧ Yields (go a) second b := by
  induction p generalizing trace with
  | done result => exact ⟨[], trace, result, rfl, .done result, h⟩
  | request r next ih =>
    cases h with
    | request _ _ reply trace _ rest =>
      obtain ⟨first, second, a, rfl, hp, hgo⟩ := ih reply rest
      exact ⟨⟨r, reply⟩ :: first, second, a, rfl, .request r next reply first a hp, hgo⟩

/-- What surroundings with a state reply to a procedure's requests. -/
def trace {σ : Type} (answer : (r : Request) → σ → r.Reply × σ) : Procedure α → σ → List Exchange
  | done _, _ => []
  | request r next, state =>
    ⟨r, (answer r state).1⟩ :: (next (answer r state).1).trace answer (answer r state).2

theorem yields_run {σ : Type} (answer : (r : Request) → σ → r.Reply × σ) (p : Procedure α)
    (state : σ) : Yields p (p.trace answer state) (p.run answer state).1 := by
  induction p generalizing state with
  | done result => exact .done result
  | request r next ih => exact .request r next _ _ _ (ih _ _)

end Procedure

end HostEngine
