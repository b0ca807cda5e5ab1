import HostEngine.Failure
/-!
# Stages, and the failure that is reported

A start or a shutdown goes through stages, each with one kind of failure. A result reports the stages
if it is a success when none of them fails, and else the failure of the first that fails.
-/
set_option autoImplicit false

namespace HostEngine

/-! ### Kinds of failures -/

namespace Failure

inductive Kind where
  | arguments
  | libraryNotFound
  | executableNotFound
  | scratchFile
  | spawn
  | native (step : NativeStep)
  | terminationCommand
  | forceKill
  | libraryUnload
  deriving DecidableEq, Repr

def kind : Failure → Kind
  | arguments _ => .arguments
  | libraryNotFound _ _ => .libraryNotFound
  | executableNotFound _ _ => .executableNotFound
  | scratchFile _ _ => .scratchFile
  | spawn _ _ => .spawn
  | native step _ => .native step
  | terminationCommand _ _ => .terminationCommand
  | forceKill _ _ => .forceKill
  | libraryUnload _ _ => .libraryUnload

end Failure

/-! ### Stages -/

/-- A stage of a start or a shutdown: of what kind its failures are, and how it failed, if it did. -/
structure Stage where
  kind : Failure.Kind
  failure? : Option Failure
  kind_eq : ∀ failure, failure? = some failure → failure.kind = kind

namespace Stage

variable {ε α : Type}

def failureOf? (fail : ε → Failure) : Except ε α → Option Failure
  | .ok _ => none
  | .error e => some (fail e)

def ofReply (kind : Failure.Kind) (fail : ε → Failure) (kinds : ∀ e, (fail e).kind = kind)
    (reply : Except ε α) : Stage where
  kind
  failure? := failureOf? fail reply
  kind_eq failure fails := by
    cases reply with
    | ok a => cases fails
    | error e =>
      cases fails
      exact kinds e

def native (step : NativeStep) (reply : Except Native.Failure α) : Stage :=
  ofReply (.native step) (.native step) (fun _ => rfl) reply

variable {kind : Failure.Kind} {fail : ε → Failure} {kinds : ∀ e, (fail e).kind = kind}
  {reply : Except ε α}

theorem passes {a : α} (replied : reply = .ok a) :
    (ofReply kind fail kinds reply).failure? = none := by
  subst replied
  rfl

theorem fails {e : ε} (replied : reply = .error e) :
    (ofReply kind fail kinds reply).failure? = some (fail e) := by
  subst replied
  rfl

end Stage

/-- What is returned is a success if all stages succeed, and the failure of the first that fails
otherwise. -/
structure Reports {α : Type} (stages : List Stage) (result : Except Failure α) : Prop where
  isOk_iff : result.isOk = true ↔ ∀ stage ∈ stages, stage.failure? = none
  eq_error_iff : ∀ failure, result = .error failure ↔
    ∃ before stage after, stages = before ++ stage :: after ∧
      (∀ earlier ∈ before, earlier.failure? = none) ∧ stage.failure? = some failure

namespace Reports

variable {α β : Type} {stage : Stage} {stages : List Stage} {result : Except Failure α}
  {failure : Failure}

theorem nil (a : α) : Reports [] (.ok a : Except Failure α) where
  isOk_iff := ⟨fun _ => List.forall_mem_nil _, fun _ => rfl⟩
  eq_error_iff failure := by
    constructor
    · rintro ⟨⟩
    · rintro ⟨before, stage, after, split, -⟩
      simp at split

theorem failed (fails : stage.failure? = some failure) :
    Reports (stage :: stages) (.error failure : Except Failure α) where
  isOk_iff := by
    constructor
    · rintro ⟨⟩
    · intro all
      have none := all stage List.mem_cons_self
      cases fails.symm.trans none
  eq_error_iff other := by
    constructor
    · rintro ⟨⟩
      exact ⟨[], stage, stages, rfl, List.forall_mem_nil _, fails⟩
    · rintro ⟨before, first, after, split, passed, fails'⟩
      cases before with
      | nil =>
        cases split
        cases fails.symm.trans fails'
        rfl
      | cons earlier before =>
        cases split
        cases fails.symm.trans (passed stage List.mem_cons_self)

theorem passed (passes : stage.failure? = none) (rest : Reports stages result) :
    Reports (stage :: stages) result where
  isOk_iff := by
    rw [rest.isOk_iff, List.forall_mem_cons]
    exact (and_iff_right passes).symm
  eq_error_iff failure := by
    rw [rest.eq_error_iff]
    constructor
    · rintro ⟨before, first, after, rfl, earlier, fails⟩
      exact ⟨stage :: before, first, after, rfl, List.forall_mem_cons.mpr ⟨passes, earlier⟩, fails⟩
    · rintro ⟨before, first, after, split, earlier, fails⟩
      cases before with
      | nil =>
        cases split
        cases passes.symm.trans fails
      | cons head before =>
        cases split
        exact ⟨before, first, after, rfl, (List.forall_mem_cons.mp earlier).2, fails⟩

theorem map (reports : Reports stages result) (f : α → β) : Reports stages (result.map f) where
  isOk_iff := by
    rw [← reports.isOk_iff]
    cases result <;> exact Iff.rfl
  eq_error_iff failure := by
    rw [← reports.eq_error_iff]
    cases result with
    | error other => simp [Except.map]
    | ok a => simp [Except.map]

theorem exists_kind (reports : Reports stages (.error failure : Except Failure α)) :
    ∃ stage ∈ stages, failure.kind = stage.kind := by
  obtain ⟨before, stage, after, rfl, -, fails⟩ := (reports.eq_error_iff failure).mp rfl
  exact ⟨stage, by simp, stage.kind_eq failure fails⟩

end Reports

end HostEngine
