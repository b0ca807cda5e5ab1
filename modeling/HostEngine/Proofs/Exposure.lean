import HostEngine.Procedure.Exposure
import HostEngine.Proofs.Effects
/-!
# Processes that signals can end

`Reaches p trace left` says that `p` can make the exchanges of `trace` and then has `left` to do.
A process that runs a procedure can end where nothing is left, and wherever a signal arrives that was
not caught before (`CanEnd`). A process that a machine runs ends at such a place
(`canEnd_of_runExposed`).
-/
set_option autoImplicit false

namespace HostEngine

def caughtBy (trace : List Exchange) : List Kernel.Signal :=
  trace.flatMap fun exchange => (Procedure.caught? exchange.request exchange.reply).toList

theorem caughtBy_append (first second : List Exchange) :
    caughtBy (first ++ second) = caughtBy first ++ caughtBy second :=
  List.flatMap_append

theorem mem_caughtBy_iff {signal : Kernel.Signal} {trace : List Exchange} :
    signal ∈ caughtBy trace ↔ ⟨.catchSignal signal, .ok ()⟩ ∈ trace := by
  unfold caughtBy
  rw [List.mem_flatMap]
  constructor
  · rintro ⟨⟨request, reply⟩, member, caught⟩
    rw [Option.mem_toList] at caught
    cases request with
    | catchSignal other =>
      cases reply with
      | ok u =>
        cases caught
        exact member
      | error fault => cases caught
    | _ => cases caught
  · intro member
    exact ⟨_, member, List.mem_singleton.mpr rfl⟩

theorem caughtBy_effects (trace : List Exchange) : caughtBy (effects trace) = caughtBy trace := by
  induction trace with
  | nil => rfl
  | cons exchange rest ih =>
    rw [← List.singleton_append, effects_append, caughtBy_append, caughtBy_append, ih]
    obtain ⟨request, reply⟩ := exchange
    cases request with
    | log event => rfl
    | _ => rfl

namespace Procedure

variable {α β σ : Type} {p left : Procedure α} {go : α → Procedure β}
  {trace first second : List Exchange}

/-- The procedure can make these exchanges, and then it has this left to do. -/
inductive Reaches : Procedure α → List Exchange → Procedure α → Prop
  | here (p : Procedure α) : Reaches p [] p
  | request (r : Request) (next : r.Reply → Procedure α) (reply : r.Reply)
      (trace : List Exchange) (left : Procedure α) (rest : Reaches (next reply) trace left) :
      Reaches (request r next) (⟨r, reply⟩ :: trace) left

theorem yields_iff_reaches {a : α} : Yields p trace a ↔ Reaches p trace (done a) := by
  constructor
  · intro yields
    induction yields with
    | done result => exact .here _
    | request r next reply trace result rest ih => exact .request r next reply trace _ ih
  · intro reaches
    generalize ends : done a = left at reaches
    induction reaches with
    | here p =>
      cases ends
      exact .done a
    | request r next reply trace left rest ih => exact .request r next reply trace a (ih ends)

theorem Reaches.bind (reaches : Reaches p trace left) (go : α → Procedure β) :
    Reaches (p >>= go) trace (left >>= go) := by
  induction reaches with
  | here p => exact .here _
  | request r next reply trace left rest ih => exact .request r _ reply trace _ ih

/-- A procedure that goes on after another is either still in the other or past it. -/
theorem reaches_bind_iff {left : Procedure β} :
    Reaches (p >>= go) trace left ↔
      (∃ r next, Reaches p trace (.request r next) ∧ left = (.request r next >>= go)) ∨
      ∃ first second a, trace = first ++ second ∧ Yields p first a ∧
        Reaches (go a) second left := by
  constructor
  · induction p generalizing trace with
    | done a =>
      intro reaches
      exact .inr ⟨[], trace, a, rfl, .done a, reaches⟩
    | request r next ih =>
      intro reaches
      cases reaches with
      | here => exact .inl ⟨r, next, .here _, rfl⟩
      | request _ _ reply trace _ rest =>
        rcases ih reply rest with ⟨r', next', inside, rfl⟩ | ⟨first, second, a, rfl, yields, past⟩
        · exact .inl ⟨r', next', .request r next reply trace _ inside, rfl⟩
        · exact .inr ⟨_, second, a, rfl, .request r next reply first a yields, past⟩
  · rintro (⟨r, next, inside, rfl⟩ | ⟨first, second, a, rfl, yields, past⟩)
    · exact inside.bind go
    · induction yields with
      | done a => exact past
      | request r next reply trace a rest ih => exact .request r _ reply _ left (ih past)

/-- What was asked and replied settles how far a procedure has come. -/
theorem Yields.reaches_iff {a : α} {left : Procedure β} (yields : Yields p first a) :
    Reaches (p >>= go) (first ++ second) left ↔ Reaches (go a) second left := by
  induction yields with
  | done a => exact Iff.rfl
  | request r next reply trace a rest ih =>
    rw [← ih]
    constructor
    · intro reaches
      cases reaches with
      | request _ _ _ _ _ rest => exact rest
    · intro reaches
      exact .request r _ reply _ left reaches

theorem Yields.not_reaches_request {a : α} {r : Request} {next : r.Reply → Procedure α}
    (yields : Yields p first a) : ¬ Reaches p (first ++ second) (.request r next) := by
  intro reaches
  rw [← bind_done p] at reaches
  have past : Reaches (Procedure.done a) second (.request r next) := yields.reaches_iff.mp reaches
  cases past

/-! ### Where a process can end -/

/-- A process that runs the procedure can end after these exchanges, if no other signals arrive than
these: nothing is left to do, or one arrives that was not caught. -/
def CanEnd (p : Procedure α) (arriving : List Kernel.Signal) (trace : List Exchange) : Prop :=
  ∃ left, Reaches p trace left ∧
    ((∃ a, left = done a) ∨ ∃ signal ∈ arriving, signal ∉ caughtBy trace)

/-- A machine that runs a process to its end gives the result of an undisturbed run, and one on which
it is ended by a signal has come to a place where this signal can end it. -/
theorem reaches_of_runExposed (answer : (r : Request) → σ → r.Reply × σ)
    (arrived : σ → List Kernel.Signal) (caught : List Kernel.Signal) (p : Procedure α) (state : σ) :
    match p.runExposed answer arrived caught state with
    | (.ok a, after) => p.run answer state = (a, after)
    | (.error signal, after) => signal ∈ arrived after ∧ signal ∉ caught ∧
      ∃ trace left, trace <+: p.trace answer state ∧ Reaches p trace left ∧
        signal ∉ caughtBy trace := by
  induction p generalizing caught state with
  | done a => rfl
  | request r next ih =>
    simp only [runExposed]
    cases found : (arrived (answer r state).2).find? fun signal => !caught.contains signal with
    | some signal =>
      have stays : signal ∉ caught := by simpa using List.find?_some found
      exact ⟨List.mem_of_find?_eq_some found, stays, [], _, List.nil_prefix, .here _,
        List.not_mem_nil⟩
    | none =>
      have goesOn := ih (answer r state).1 ((caught? r (answer r state).1).toList ++ caught)
        (answer r state).2
      revert goesOn
      simp only
      cases (next (answer r state).1).runExposed answer arrived
          ((caught? r (answer r state).1).toList ++ caught) (answer r state).2 with
      | mk result after =>
        cases result with
        | ok a => exact id
        | error signal =>
          rintro ⟨arrives, uncaught, trace, left, begins, reaches, untouched⟩
          rw [List.mem_append, not_or] at uncaught
          refine ⟨arrives, uncaught.2, ⟨r, (answer r state).1⟩ :: trace, left, ?_, ?_, ?_⟩
          · exact List.cons_prefix_cons.mpr ⟨rfl, begins⟩
          · exact .request r next _ trace left reaches
          · rw [← List.singleton_append, caughtBy_append, List.mem_append, not_or]
            refine ⟨?_, untouched⟩
            simpa [caughtBy] using uncaught.1

theorem canEnd_of_runExposed (answer : (r : Request) → σ → r.Reply × σ)
    {arrived : σ → List Kernel.Signal} {arriving : List Kernel.Signal} (p : Procedure α) (state : σ)
    (only : ∀ state, ∀ signal ∈ arrived state, signal ∈ arriving) :
    ∃ trace, trace <+: p.trace answer state ∧ CanEnd p arriving trace ∧
      ((p.runExposed answer arrived [] state).1.isOk = true → trace = p.trace answer state) := by
  have ran := reaches_of_runExposed answer arrived [] p state
  revert ran
  cases p.runExposed answer arrived [] state with
  | mk result after =>
    cases result with
    | ok a =>
      intro same
      refine ⟨_, List.prefix_rfl, ⟨_, yields_iff_reaches.mp (yields_run answer p state), ?_⟩,
        fun _ => rfl⟩
      exact .inl ⟨_, rfl⟩
    | error signal =>
      rintro ⟨arrives, -, trace, left, begins, reaches, untouched⟩
      refine ⟨trace, begins, ⟨left, reaches, .inr ⟨signal, only _ _ arrives, untouched⟩⟩, ?_⟩
      rintro ⟨⟩

end Procedure

end HostEngine
