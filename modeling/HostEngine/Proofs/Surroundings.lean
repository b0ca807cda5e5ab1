import HostEngine.Proofs.Effects
import Mathlib.Logic.Relation
/-!
# Surroundings that answer requests

Surroundings have a state, say how they may answer a request in it, and may also change by
themselves at any time. `Along` is what the exchanges of one caller do to them. Several callers are
told apart by their numbers.
-/
set_option autoImplicit false

namespace HostEngine

/-- Surroundings with a state: which exchanges a caller can make and what becomes of the state, and
how the state may change without any. -/
structure Surroundings (σ : Type) where
  answers : Nat → σ → Exchange → σ → Prop
  drifts : σ → σ → Prop

namespace Surroundings

variable {σ τ : Type} {s : Surroundings σ} {t : Surroundings τ} {caller : Nat} {a b c : σ}
  {trace first second : List Exchange}

/-- A caller can make these exchanges in a row, and the state changes from the one to the other,
with any drift before, between and after them. -/
def Along (s : Surroundings σ) (caller : Nat) : σ → List Exchange → σ → Prop
  | a, [], c => Relation.ReflTransGen s.drifts a c
  | a, exchange :: rest, c => ∃ b b', Relation.ReflTransGen s.drifts a b ∧
      s.answers caller b exchange b' ∧ Along s caller b' rest c

theorem Along.drifted (drift : Relation.ReflTransGen s.drifts a b)
    (along : s.Along caller b trace c) : s.Along caller a trace c := by
  cases trace with
  | nil => exact drift.trans along
  | cons exchange rest =>
    obtain ⟨b₁, b₂, drift', answer, rest⟩ := along
    exact ⟨b₁, b₂, drift.trans drift', answer, rest⟩

theorem along_append_iff :
    s.Along caller a (first ++ second) c ↔
      ∃ b, s.Along caller a first b ∧ s.Along caller b second c := by
  induction first generalizing a with
  | nil =>
    constructor
    · intro along
      exact ⟨a, .refl, along⟩
    · rintro ⟨b, drift, along⟩
      exact along.drifted drift
  | cons exchange rest ih =>
    constructor
    · rintro ⟨b₁, b₂, drift, answer, along⟩
      obtain ⟨b, before, after⟩ := ih.mp along
      exact ⟨b, ⟨b₁, b₂, drift, answer, before⟩, after⟩
    · rintro ⟨b, ⟨b₁, b₂, drift, answer, before⟩, after⟩
      exact ⟨b₁, b₂, drift, answer, ih.mpr ⟨b, before, after⟩⟩

/-- What the drift and every single exchange preserve is preserved by all of them. -/
theorem Along.preserves {P : σ → Prop} (drifts : ∀ a b, s.drifts a b → P a → P b)
    (answers : ∀ exchange ∈ trace, ∀ a b, s.answers caller a exchange b → P a → P b)
    (along : s.Along caller a trace c) (holds : P a) : P c := by
  have drifted (a b : σ) (drift : Relation.ReflTransGen s.drifts a b) (holds : P a) : P b := by
    induction drift with
    | refl => exact holds
    | tail _ step ih => exact drifts _ _ step ih
  induction trace generalizing a with
  | nil => exact drifted a c along holds
  | cons exchange rest ih =>
    obtain ⟨b₁, b₂, drift, answer, along⟩ := along
    have before : P b₁ := drifted a b₁ drift holds
    have after : P b₂ := answers exchange List.mem_cons_self b₁ b₂ answer before
    exact ih (fun e member => answers e (List.mem_cons_of_mem _ member)) along after

/-- Running a procedure on a state is one way for surroundings to go, if every reply is one that they
may give. -/
theorem along_trace {α : Type} {answer : (r : Request) → τ → r.Reply × τ} {f : τ → σ}
    (answers : ∀ r state, s.answers caller (f state) ⟨r, (answer r state).1⟩ (f (answer r state).2))
    (p : Procedure α) (state : τ) :
    s.Along caller (f state) (p.trace answer state) (f (p.run answer state).2) := by
  induction p generalizing state with
  | done result => exact .refl
  | request r next ih => exact ⟨f state, _, .refl, answers r state, ih _ _⟩

/-! ### Surroundings that do not drift -/

/-- Only exchanges change the state. -/
def Steady (s : Surroundings σ) : Prop := ∀ a b, ¬ s.drifts a b

theorem Steady.eq (steady : s.Steady) (drift : Relation.ReflTransGen s.drifts a b) : b = a := by
  induction drift with
  | refl => rfl
  | tail _ step => exact absurd step (steady _ _)

theorem Steady.along_nil_iff (steady : s.Steady) : s.Along caller a [] c ↔ c = a := by
  constructor
  · exact steady.eq
  · rintro rfl
    exact .refl

theorem Steady.along_cons_iff (steady : s.Steady) {exchange : Exchange} :
    s.Along caller a (exchange :: trace) c ↔
      ∃ b, s.answers caller a exchange b ∧ s.Along caller b trace c := by
  constructor
  · rintro ⟨b₁, b₂, drift, answer, along⟩
    obtain rfl := steady.eq drift
    exact ⟨b₂, answer, along⟩
  · rintro ⟨b, answer, along⟩
    exact ⟨a, b, .refl, answer, along⟩

/-! ### Log events -/

/-- A log event can always be written and changes nothing. -/
def Quiet (s : Surroundings σ) : Prop :=
  ∀ caller a exchange b, exchange.isEffect = false → (s.answers caller a exchange b ↔ b = a)

theorem Quiet.along_effects_iff (quiet : s.Quiet) :
    s.Along caller a (effects trace) c ↔ s.Along caller a trace c := by
  induction trace generalizing a with
  | nil => exact Iff.rfl
  | cons exchange rest ih =>
    cases effect : exchange.isEffect with
    | true =>
      rw [effects, List.filter_cons_of_pos effect]
      constructor
      · rintro ⟨b₁, b₂, drift, answer, along⟩
        exact ⟨b₁, b₂, drift, answer, ih.mp along⟩
      · rintro ⟨b₁, b₂, drift, answer, along⟩
        exact ⟨b₁, b₂, drift, answer, ih.mpr along⟩
    | false =>
      rw [effects, List.filter_cons_of_neg (by simp [effect])]
      constructor
      · intro along
        exact ⟨a, a, .refl, (quiet _ _ _ _ effect).mpr rfl, ih.mp along⟩
      · rintro ⟨b₁, b₂, drift, answer, along⟩
        obtain rfl := (quiet _ _ _ _ effect).mp answer
        exact (ih.mpr along).drifted drift

/-! ### Parts of the surroundings -/

/-- What one sees of the surroundings, if that has answers and a drift of its own. -/
theorem Along.map {f : σ → τ}
    (answers : ∀ caller a exchange b, s.answers caller a exchange b →
      t.answers caller (f a) exchange (f b))
    (drifts : ∀ a b, s.drifts a b → Relation.ReflTransGen t.drifts (f a) (f b))
    (along : s.Along caller a trace c) : t.Along caller (f a) trace (f c) := by
  have drifted (a b : σ) (drift : Relation.ReflTransGen s.drifts a b) :
      Relation.ReflTransGen t.drifts (f a) (f b) := by
    induction drift with
    | refl => exact .refl
    | tail _ step ih => exact ih.trans (drifts _ _ step)
  induction trace generalizing a with
  | nil => exact drifted a c along
  | cons exchange rest ih =>
    obtain ⟨b₁, b₂, drift, answer, along⟩ := along
    exact ⟨f b₁, f b₂, drifted a b₁ drift, answers _ _ _ _ answer, ih along⟩

end Surroundings

end HostEngine
