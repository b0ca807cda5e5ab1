import HostEngine.Proofs.Fleet
import Mathlib.Data.Finset.Option
/-!
# What the callers of a fleet hold

A resource is gained by some exchanges and lost by others. `Resource.held` is what a caller holds after
all it did, and `Resource.Turns` says besides that it lost nothing that it did not hold. If every life
is such a turnover, then in every reachable fleet the callers hold, each for itself, exactly what there
is and nobody else holds (`Reachable.stocked`).
-/
set_option autoImplicit false

namespace HostEngine

/-- Something that is gained and lost by exchanges, but not by log events. -/
structure Resource (κ : Type) where
  gained? : Exchange → Option κ
  lost? : Exchange → Option κ
  silent : ∀ exchange, exchange.isEffect = false →
    gained? exchange = none ∧ lost? exchange = none

namespace Resource

variable {κ : Type} [DecidableEq κ] (r : Resource κ)

def after (held : Finset κ) (exchange : Exchange) : Finset κ :=
  (held \ (r.lost? exchange).toFinset) ∪ (r.gained? exchange).toFinset

def held (done : List Exchange) : Finset κ := done.foldl r.after ∅

/-- The exchanges lose only what is held, and lead from the one holding to the other. -/
def Turns : Finset κ → List Exchange → Finset κ → Prop
  | before, [], after => after = before
  | before, exchange :: rest, after =>
    (∀ k, r.lost? exchange = some k → k ∈ before) ∧ Turns (r.after before exchange) rest after

def Idle (exchange : Exchange) : Prop := r.gained? exchange = none ∧ r.lost? exchange = none

variable {r} {before after : Finset κ} {exchange : Exchange} {done first second : List Exchange}

theorem mem_after_iff {k : κ} : k ∈ r.after before exchange ↔
    (k ∈ before ∧ r.lost? exchange ≠ some k) ∨ r.gained? exchange = some k := by
  unfold Resource.after
  rw [Finset.mem_union, Finset.mem_sdiff, Option.mem_toFinset, Option.mem_toFinset]
  exact Iff.rfl

theorem after_of_idle (idle : r.Idle exchange) : r.after before exchange = before := by
  ext k
  rw [mem_after_iff, idle.1, idle.2]
  simp

theorem after_of_gained {k : κ} (gained : r.gained? exchange = some k)
    (kept : r.lost? exchange = none) : r.after before exchange = insert k before := by
  ext other
  rw [mem_after_iff, gained, kept, Finset.mem_insert]
  simp [or_comm, eq_comm]

theorem after_of_lost {k : κ} (lost : r.lost? exchange = some k)
    (nothing : r.gained? exchange = none) : r.after before exchange = before.erase k := by
  ext other
  rw [mem_after_iff, lost, nothing, Finset.mem_erase]
  simp [and_comm, eq_comm]

theorem held_append (done : List Exchange) (exchange : Exchange) :
    r.held (done ++ effects [exchange]) = r.after (r.held done) exchange := by
  unfold held
  rw [List.foldl_append]
  cases effect : exchange.isEffect with
  | true => simp [effects, effect]
  | false =>
    rw [after_of_idle (r.silent exchange effect)]
    simp [effects, effect]

theorem turns_append_iff : r.Turns before (first ++ second) after ↔
    ∃ between, r.Turns before first between ∧ r.Turns between second after := by
  induction first generalizing before with
  | nil => simp [Turns]
  | cons exchange rest ih =>
    rw [List.cons_append, Turns, ih]
    constructor
    · rintro ⟨owns, between, begins, ends⟩
      exact ⟨between, ⟨owns, begins⟩, ends⟩
    · rintro ⟨between, ⟨owns, begins⟩, ends⟩
      exact ⟨owns, between, begins, ends⟩

theorem turns_of_idle (idle : ∀ exchange ∈ done, r.Idle exchange) : r.Turns before done before := by
  induction done with
  | nil => rfl
  | cons exchange rest ih =>
    rw [List.forall_mem_cons] at idle
    refine ⟨fun k lost => ?_, ?_⟩
    · cases idle.1.2.symm.trans lost
    · rw [after_of_idle idle.1]
      exact ih idle.2

theorem turns_of_gained {k : κ} (gained : r.gained? exchange = some k)
    (kept : r.lost? exchange = none) : r.Turns ∅ [exchange] {k} := by
  refine ⟨fun other lost => ?_, ?_⟩
  · cases kept.symm.trans lost
  · rw [Turns, after_of_gained gained kept]
    rfl

theorem turns_of_lost {k : κ} (lost : r.lost? exchange = some k)
    (nothing : r.gained? exchange = none) : r.Turns {k} [exchange] ∅ := by
  refine ⟨fun other also => ?_, ?_⟩
  · cases lost.symm.trans also
    exact Finset.mem_singleton_self k
  · rw [Turns, after_of_lost lost nothing, Finset.erase_singleton]

/-- Before or after exchanges that gain and lose nothing, a turnover is what it is without them. -/
theorem Turns.after_idle (idle : ∀ exchange ∈ first, r.Idle exchange)
    (turns : r.Turns before second after) : r.Turns before (first ++ second) after :=
  turns_append_iff.mpr ⟨before, turns_of_idle idle, turns⟩

theorem Turns.then_idle (turns : r.Turns before first after)
    (idle : ∀ exchange ∈ second, r.Idle exchange) : r.Turns before (first ++ second) after :=
  turns_append_iff.mpr ⟨after, turns, turns_of_idle idle⟩

theorem Turns.eq_foldl (turns : r.Turns before done after) :
    after = done.foldl r.after before := by
  induction done generalizing before with
  | nil => exact turns
  | cons exchange rest ih => exact ih turns.2

theorem Turns.eq_held (turns : r.Turns ∅ done after) : after = r.held done := turns.eq_foldl

end Resource

namespace Fleet

open Procedure

variable {σ κ : Type} [DecidableEq κ] {s : Surroundings σ} {r : Resource κ}

/-- How surroundings keep account of a resource: what there is of it, and what of that others than the
callers hold. The surroundings themselves do nothing to what the callers hold. -/
structure Accounts (s : Surroundings σ) (r : Resource κ) where
  all : σ → Finset κ
  others : σ → Finset κ
  sound : σ → Prop
  answers : ∀ {caller : Nat} {a b : σ} {exchange : Exchange}, s.answers caller a exchange b →
    sound a → (∀ k, r.lost? exchange = some k → k ∈ all a) →
    sound b ∧ (∀ k, r.gained? exchange = some k → k ∉ all a) ∧
      all b = r.after (all a) exchange ∧ others b = others a
  drifts : ∀ {a b : σ}, s.drifts a b → sound a → others a ⊆ all a →
    sound b ∧ others b ⊆ all b ∧
      ∀ k, (k ∈ all b ∧ k ∉ others b) ↔ (k ∈ all a ∧ k ∉ others a)

/-- The callers hold what there is and nobody else holds, and no two of them the same. -/
structure Stocked (accounts : Accounts s r) (fleet : Fleet σ) : Prop where
  sound : accounts.sound fleet.world
  others_subset : accounts.others fleet.world ⊆ accounts.all fleet.world
  held_iff : ∀ k, (k ∈ accounts.all fleet.world ∧ k ∉ accounts.others fleet.world) ↔
    ∃ caller, k ∈ r.held (fleet.deeds caller)
  single : ∀ first second k, k ∈ r.held (fleet.deeds first) → k ∈ r.held (fleet.deeds second) →
    first = second

/-- Whatever a caller does in its life, it loses only what it holds, and what it holds in the end
depends on what it has come to. -/
def Thrifty (r : Resource κ) (holding : Ending → Finset κ) : Prop :=
  ∀ {options mode args done ending}, Life options mode args done ending →
    r.Turns ∅ done (holding ending)

variable {accounts : Accounts s r} {holding : Ending → Finset κ} {fleet next : Fleet σ} {world : σ}

theorem Lived.life {done : List Exchange} {ending : Ending} (lived : Lived done (.done ending)) :
    ∃ options mode args, Life options mode args done ending := by
  obtain ⟨options, mode, args, life⟩ := lived
  have whole := life [] ending (performs_pure_iff.mpr ⟨rfl, rfl⟩)
  rw [List.append_nil] at whole
  exact ⟨options, mode, args, whole⟩

theorem Thrifty.held_of_ended (thrifty : Thrifty r holding) (sound : fleet.Sound) {caller : Nat}
    {ending : Ending} (ended : fleet.lives[caller]? = some (.done ending)) :
    r.held (fleet.deeds caller) = holding ending := by
  obtain ⟨options, mode, args, life⟩ := (sound.lived caller _ ended).life
  exact (thrifty life).eq_held.symm

theorem Lived.holds_lost (thrifty : Thrifty r holding) {done : List Exchange} {exchange : Exchange}
    {todo : Procedure Ending} (lived : Lived (done ++ effects [exchange]) todo) {k : κ}
    (lost : r.lost? exchange = some k) : k ∈ r.held done := by
  obtain ⟨options, mode, args, rest, ending, life⟩ := lived.exists_life
  obtain ⟨between, before, -⟩ := Resource.turns_append_iff.mp (thrifty life)
  obtain ⟨held, begins, ends⟩ := Resource.turns_append_iff.mp before
  cases effect : exchange.isEffect with
  | false => cases (r.silent exchange effect).2.symm.trans lost
  | true =>
    rw [effects, List.filter_cons_of_pos effect] at ends
    rw [← begins.eq_held]
    exact ends.1 k lost

theorem Stocked.mem_all_iff (stocked : Stocked accounts fleet) (k : κ) :
    k ∈ accounts.all fleet.world ↔
      k ∈ accounts.others fleet.world ∨ ∃ caller, k ∈ r.held (fleet.deeds caller) := by
  constructor
  · intro is
    by_cases other : k ∈ accounts.others fleet.world
    · exact .inl other
    · exact .inr ((stocked.held_iff k).mp ⟨is, other⟩)
  · rintro (other | holds)
    · exact stocked.others_subset other
    · exact ((stocked.held_iff k).mpr holds).1

theorem Stocked.apart (stocked : Stocked accounts fleet) {caller : Nat} {k : κ}
    (holds : k ∈ r.held (fleet.deeds caller)) : k ∉ accounts.others fleet.world :=
  ((stocked.held_iff k).mpr ⟨caller, holds⟩).2

theorem held_deeds_append (fleet : Fleet σ) (world : σ) (lives : List (Procedure Ending))
    (actor : Nat) (exchange : Exchange) (caller : Nat) :
    r.held ((⟨world, lives, fleet.journal ++ [(actor, exchange)]⟩ : Fleet σ).deeds caller) =
      if actor = caller then r.after (r.held (fleet.deeds caller)) exchange
      else r.held (fleet.deeds caller) := by
  rw [deeds_append]
  by_cases same : actor = caller
  · rw [if_pos same, if_pos same, Resource.held_append]
  · rw [if_neg same, if_neg same, List.append_nil]

/-- What is held after an exchange was held before, by the same caller and not lost, or the actor
gained it. -/
theorem Stocked.mem_held_append_iff (stocked : Stocked accounts fleet) {actor : Nat}
    {exchange : Exchange} {lives : List (Procedure Ending)}
    (owns : ∀ k, r.lost? exchange = some k → k ∈ r.held (fleet.deeds actor)) (caller : Nat) (k : κ) :
    k ∈ r.held ((⟨world, lives, fleet.journal ++ [(actor, exchange)]⟩ : Fleet σ).deeds caller) ↔
      (k ∈ r.held (fleet.deeds caller) ∧ r.lost? exchange ≠ some k) ∨
        (actor = caller ∧ r.gained? exchange = some k) := by
  rw [held_deeds_append]
  by_cases same : actor = caller
  · rw [if_pos same, Resource.mem_after_iff]
    simp [same]
  · rw [if_neg same]
    constructor
    · intro holds
      refine .inl ⟨holds, fun lost => ?_⟩
      exact same (stocked.single actor caller k (owns k lost) holds)
    · rintro (⟨holds, -⟩ | ⟨is, -⟩)
      · exact holds
      · exact absurd is same

theorem Stocked.exchange (stocked : Stocked accounts fleet) {actor : Nat} {exchange : Exchange}
    {lives : List (Procedure Ending)} (answer : s.answers actor fleet.world exchange world)
    (owns : ∀ k, r.lost? exchange = some k → k ∈ r.held (fleet.deeds actor)) :
    Stocked accounts ⟨world, lives, fleet.journal ++ [(actor, exchange)]⟩ := by
  have there (caller : Nat) (k : κ) (holds : k ∈ r.held (fleet.deeds caller)) :
      k ∈ accounts.all fleet.world := (stocked.mem_all_iff k).mpr (.inr ⟨caller, holds⟩)
  obtain ⟨sound, fresh, all, others⟩ := accounts.answers answer stocked.sound
    fun k lost => there actor k (owns k lost)
  have newly (caller : Nat) (k : κ) (gained : r.gained? exchange = some k) :
      k ∉ r.held (fleet.deeds caller) :=
    fun holds => fresh k gained (there caller k holds)
  constructor
  · exact sound
  · intro k other
    simp only [all, others, Resource.mem_after_iff] at other ⊢
    refine .inl ⟨stocked.others_subset other, fun lost => ?_⟩
    exact stocked.apart (owns k lost) other
  · intro k
    simp only [all, others, stocked.mem_held_append_iff owns, Resource.mem_after_iff]
    constructor
    · rintro ⟨⟨was, kept⟩ | gained, mine⟩
      · obtain ⟨caller, holds⟩ := (stocked.held_iff k).mp ⟨was, mine⟩
        exact ⟨caller, .inl ⟨holds, kept⟩⟩
      · exact ⟨actor, .inr ⟨rfl, gained⟩⟩
    · rintro ⟨caller, ⟨holds, kept⟩ | ⟨-, gained⟩⟩
      · exact ⟨.inl ⟨there caller k holds, kept⟩, stocked.apart holds⟩
      · exact ⟨.inr gained, fun other => fresh k gained (stocked.others_subset other)⟩
  · intro first second k
    rw [stocked.mem_held_append_iff owns, stocked.mem_held_append_iff owns]
    rintro (⟨holds, -⟩ | ⟨rfl, gained⟩) (⟨holds', -⟩ | ⟨rfl, gained'⟩)
    · exact stocked.single first second k holds holds'
    · exact absurd holds (newly first k gained')
    · exact absurd holds' (newly second k gained)
    · rfl

theorem Step.stocked (thrifty : Thrifty r holding) (step : Step s fleet next) (sound : fleet.Sound)
    (stocked : Stocked accounts fleet) : Stocked accounts next := by
  cases step with
  | drift world drifts =>
    obtain ⟨soundNow, subset, same⟩ := accounts.drifts drifts stocked.sound stocked.others_subset
    refine ⟨soundNow, subset, fun k => ?_, stocked.single⟩
    exact (same k).trans (stocked.held_iff k)
  | start options mode args =>
    exact ⟨stocked.sound, stocked.others_subset, stocked.held_iff, stocked.single⟩
  | shutdown caller session running =>
    exact ⟨stocked.sound, stocked.others_subset, stocked.held_iff, stocked.single⟩
  | drop caller session running =>
    exact ⟨stocked.sound, stocked.others_subset, stocked.held_iff, stocked.single⟩
  | exchange actor r' onReply reply world asks answer =>
    have lived := (sound.lived actor _ asks).exchange reply
    exact stocked.exchange answer fun k lost => lived.holds_lost thrifty lost

theorem Reachable.stocked (accounts : Accounts s r) (thrifty : Thrifty r holding)
    (sound : accounts.sound world) (idle : accounts.all world = accounts.others world)
    (reachable : Reachable s world fleet) : Stocked accounts fleet := by
  induction reachable with
  | refl =>
    refine ⟨sound, idle.symm.subset, fun k => ?_, ?_⟩
    · simp only [idle]
      constructor
      · rintro ⟨other, mine⟩
        exact absurd other mine
      · rintro ⟨caller, holds⟩
        cases holds
    · intro first second k holds
      cases holds
  | tail earlier step ih => exact step.stocked thrifty (Reachable.sound earlier) ih

end Fleet

end HostEngine
