import HostEngine.Proofs.Session.Startup
import HostEngine.Proofs.Session.Teardown
import HostEngine.Proofs.Surroundings
/-!
# Many sessions at once

A fleet starts any number of sessions, shuts some of them down and drops others, in any order and
with their exchanges interleaved in any way. Each start makes a new caller; what comes after goes by
the same number. The journal holds all exchanges so far. In every reachable fleet, what a caller did
so far begins a whole life: a start, and what may follow it (`Reachable.lived`).
-/
set_option autoImplicit false

namespace HostEngine

/-- What a caller has come to. -/
inductive Ending where
  | failed (failure : Failure)
  | started (session : Session)
  | closed (outcome : Except Failure Unit)
  | dropped

def Ending.ofStart : Except Failure Session → Ending
  | .error failure => failed failure
  | .ok session => started session

/-- Callers at work in surroundings. -/
structure Fleet (σ : Type) where
  world : σ
  lives : List (Procedure Ending)
  journal : List (Nat × Exchange)

namespace Fleet

open Procedure

variable {σ : Type}

/-- What can happen next: the surroundings drift, a start begins, a running session begins to be shut
down or dropped, or some caller makes its next exchange. -/
inductive Step (s : Surroundings σ) : Fleet σ → Fleet σ → Prop
  | drift (fleet : Fleet σ) (world : σ) (drifts : s.drifts fleet.world world) :
    Step s fleet { fleet with world }
  | start (fleet : Fleet σ) (options : Options) (mode : Mode) (args : List String) :
    Step s fleet
      { fleet with lives := fleet.lives ++ [Ending.ofStart <$> Session.start options mode args] }
  | shutdown (fleet : Fleet σ) (caller : Nat) (session : Session)
      (running : fleet.lives[caller]? = some (.done (.started session))) :
    Step s fleet { fleet with lives := fleet.lives.set caller (.closed <$> session.shutdown) }
  | drop (fleet : Fleet σ) (caller : Nat) (session : Session)
      (running : fleet.lives[caller]? = some (.done (.started session))) :
    Step s fleet
      { fleet with lives := fleet.lives.set caller ((fun _ => .dropped) <$> session.drop) }
  | exchange (fleet : Fleet σ) (caller : Nat) (r : Request) (next : r.Reply → Procedure Ending)
      (reply : r.Reply) (world : σ) (asks : fleet.lives[caller]? = some (.request r next))
      (answer : s.answers caller fleet.world ⟨r, reply⟩ world) :
    Step s fleet
      ⟨world, fleet.lives.set caller (next reply), fleet.journal ++ [(caller, ⟨r, reply⟩)]⟩

/-- The fleet can come about from one without callers. -/
def Reachable (s : Surroundings σ) (world : σ) (fleet : Fleet σ) : Prop :=
  Relation.ReflTransGen (Step s) ⟨world, [], []⟩ fleet

def past (fleet : Fleet σ) (caller : Nat) : List Exchange :=
  (fleet.journal.filter (·.1 = caller)).map Prod.snd

/-- What one caller did so far, log events apart. -/
def deeds (fleet : Fleet σ) (caller : Nat) : List Exchange := effects (fleet.past caller)

/-- What a caller does in its whole life, and what it comes to. -/
inductive Life (options : Options) (mode : Mode) (args : List String) :
    List Exchange → Ending → Prop
  | failed (done : List Exchange) (failure : Failure)
      (startup : Session.Startup options mode args done (.error failure)) :
    Life options mode args done (.failed failure)
  | started (done : List Exchange) (session : Session)
      (startup : Session.Startup options mode args done (.ok session)) :
    Life options mode args done (.started session)
  | closed (done : List Exchange) (session : Session) (closing : Session.Closing)
      (startup : Session.Startup options mode args done (.ok session)) :
    Life options mode args (done ++ session.teardown closing) (.closed (session.outcome closing))
  | dropped (done : List Exchange) (session : Session) (removed : Except Kernel.Fault Unit)
      (startup : Session.Startup options mode args done (.ok session)) :
    Life options mode args (done ++ session.dropping removed) .dropped

/-- A caller's session was started, and is neither being shut down or dropped nor was it. -/
def Running (fleet : Fleet σ) (caller : Nat) (session : Session) : Prop :=
  fleet.lives[caller]? = some (.done (.started session))

/-- Nobody is in the midst of a start, a shutdown or a drop. -/
def AtRest (fleet : Fleet σ) : Prop := ∀ todo ∈ fleet.lives, ∃ ending, todo = .done ending

/-- With what is still to be done, however that goes, the exchanges of a caller make a whole life. -/
def Lived (done : List Exchange) (todo : Procedure Ending) : Prop :=
  ∃ options mode args, ∀ rest ending, todo.Performs rest ending →
    Life options mode args (done ++ rest) ending

/-! ### One caller -/

theorem lived_start (options : Options) (mode : Mode) (args : List String) :
    Lived [] (Ending.ofStart <$> Session.start options mode args) := by
  refine ⟨options, mode, args, ?_⟩
  intro rest ending performs
  obtain ⟨result, starts, rfl⟩ := performs_map_iff.mp performs
  have startup := Session.performs_start_iff.mp starts
  cases result with
  | error failure => exact .failed rest failure startup
  | ok session => exact .started rest session startup

theorem Lived.startup {done : List Exchange} {session : Session}
    (lived : Lived done (.done (.started session))) :
    ∃ options mode args, Session.Startup options mode args done (.ok session) := by
  obtain ⟨options, mode, args, life⟩ := lived
  have whole := life [] (.started session) (performs_pure_iff.mpr ⟨rfl, rfl⟩)
  rw [List.append_nil] at whole
  cases whole with
  | started _ _ startup => exact ⟨options, mode, args, startup⟩

theorem Lived.shutdown {done : List Exchange} {session : Session}
    (lived : Lived done (.done (.started session))) :
    Lived done (.closed <$> session.shutdown) := by
  obtain ⟨options, mode, args, startup⟩ := lived.startup
  refine ⟨options, mode, args, ?_⟩
  intro rest ending performs
  obtain ⟨outcome, shuts, rfl⟩ := performs_map_iff.mp performs
  obtain ⟨closing, rfl, rfl⟩ := Session.performs_shutdown_iff.mp shuts
  exact .closed done session closing startup

theorem Lived.drop {done : List Exchange} {session : Session}
    (lived : Lived done (.done (.started session))) :
    Lived done ((fun _ => .dropped) <$> session.drop) := by
  obtain ⟨options, mode, args, startup⟩ := lived.startup
  refine ⟨options, mode, args, ?_⟩
  intro rest ending performs
  obtain ⟨u, drops, rfl⟩ := performs_map_iff.mp performs
  obtain ⟨removed, rfl⟩ := Session.performs_drop_iff.mp drops
  exact .dropped done session removed startup

theorem Lived.exchange {done : List Exchange} {r : Request} {next : r.Reply → Procedure Ending}
    (lived : Lived done (.request r next)) (reply : r.Reply) :
    Lived (done ++ effects [⟨r, reply⟩]) (next reply) := by
  obtain ⟨options, mode, args, life⟩ := lived
  refine ⟨options, mode, args, ?_⟩
  intro rest ending performs
  rw [List.append_assoc]
  exact life _ ending (performs_request_iff.mpr ⟨reply, rest, rfl, performs⟩)

theorem Lived.exists_life {done : List Exchange} {todo : Procedure Ending}
    (lived : Lived done todo) :
    ∃ options mode args rest ending, Life options mode args (done ++ rest) ending := by
  obtain ⟨options, mode, args, life⟩ := lived
  obtain ⟨rest, ending, performs⟩ := exists_performs todo
  exact ⟨options, mode, args, rest, ending, life rest ending performs⟩

/-! ### All callers -/

variable {s : Surroundings σ} {fleet next : Fleet σ} {world : σ}

theorem past_append (fleet : Fleet σ) (world : σ) (lives : List (Procedure Ending))
    (actor : Nat) (exchange : Exchange) (caller : Nat) :
    (⟨world, lives, fleet.journal ++ [(actor, exchange)]⟩ : Fleet σ).past caller =
      fleet.past caller ++ if actor = caller then [exchange] else [] := by
  unfold past
  rw [List.filter_append, List.map_append]
  by_cases same : actor = caller
  · simp [same]
  · simp [same]

theorem deeds_append (fleet : Fleet σ) (world : σ) (lives : List (Procedure Ending))
    (actor : Nat) (exchange : Exchange) (caller : Nat) :
    (⟨world, lives, fleet.journal ++ [(actor, exchange)]⟩ : Fleet σ).deeds caller =
      fleet.deeds caller ++ if actor = caller then effects [exchange] else [] := by
  unfold deeds
  rw [past_append, effects_append]
  by_cases same : actor = caller
  · rw [if_pos same, if_pos same]
  · rw [if_neg same, if_neg same]
    rfl

/-- Each caller has lived, and nobody else has done anything. -/
structure Sound (fleet : Fleet σ) : Prop where
  lived : ∀ caller todo, fleet.lives[caller]? = some todo →
    Lived (fleet.deeds caller) todo
  unborn : ∀ caller, fleet.lives.length ≤ caller → fleet.past caller = []

/-- A caller who goes on with something that suits what it did so far keeps the fleet sound. -/
theorem Sound.set (sound : fleet.Sound) {caller : Nat} {before todo : Procedure Ending}
    (running : fleet.lives[caller]? = some before)
    (goesOn : Lived (fleet.deeds caller) before → Lived (fleet.deeds caller) todo) :
    Sound { fleet with lives := fleet.lives.set caller todo } where
  lived other todo' isTodo := by
    by_cases same : caller = other
    · subst same
      rw [List.getElem?_set_self' , running] at isTodo
      cases isTodo
      exact goesOn (sound.lived caller before running)
    · rw [List.getElem?_set_ne same] at isTodo
      exact sound.lived other todo' isTodo
  unborn other beyond := sound.unborn other (by simpa using beyond)

theorem Step.sound (step : Step s fleet next) (sound : fleet.Sound) : next.Sound := by
  cases step with
  | drift world drifts => exact ⟨sound.lived, sound.unborn⟩
  | start options mode args =>
    constructor
    · intro caller todo isTodo
      rcases Nat.lt_trichotomy caller fleet.lives.length with old | new | beyond
      · rw [List.getElem?_append_left old] at isTodo
        exact sound.lived caller todo isTodo
      · -- Nobody has acted yet under the number of the new caller.
        subst new
        rw [List.getElem?_concat_length] at isTodo
        cases isTodo
        have nothing : fleet.past fleet.lives.length = [] := sound.unborn _ (Nat.le_refl _)
        have same : fleet.deeds fleet.lives.length = [] := by
          rw [deeds, nothing]
          rfl
        exact same ▸ lived_start options mode args
      · rw [List.getElem?_append_right (Nat.le_of_lt beyond)] at isTodo
        rw [List.getElem?_eq_none (by rw [List.length_singleton]; omega)] at isTodo
        cases isTodo
    · intro caller beyond
      have further : fleet.lives.length ≤ caller := by
        rw [List.length_append] at beyond
        omega
      exact sound.unborn caller further
  | shutdown caller session running => exact sound.set running Lived.shutdown
  | drop caller session running => exact sound.set running Lived.drop
  | exchange actor r onReply reply world asks answer =>
    have acted := sound.lived actor _ asks
    constructor
    · intro caller todo isTodo
      rw [deeds_append]
      by_cases same : actor = caller
      · subst same
        rw [List.getElem?_set_self', asks] at isTodo
        cases isTodo
        rw [if_pos rfl]
        exact acted.exchange reply
      · rw [List.getElem?_set_ne same] at isTodo
        rw [if_neg same, List.append_nil]
        exact sound.lived caller todo isTodo
    · intro caller beyond
      rw [List.length_set] at beyond
      have differs : actor ≠ caller := by
        rintro rfl
        rw [List.getElem?_eq_none beyond] at asks
        cases asks
      rw [past_append, if_neg differs, List.append_nil]
      exact sound.unborn caller beyond

theorem Reachable.sound (reachable : Reachable s world fleet) : fleet.Sound := by
  induction reachable with
  | refl =>
    constructor
    · rintro caller todo ⟨⟩
    · intro caller beyond
      rfl
  | tail _ step ih => exact step.sound ih

theorem Sound.deeds_of_unborn (sound : fleet.Sound) {caller : Nat}
    (beyond : fleet.lives.length ≤ caller) : fleet.deeds caller = [] := by
  rw [deeds, sound.unborn caller beyond]
  rfl

/-! ### Running one caller -/

theorem run_drift (drift : Relation.ReflTransGen s.drifts fleet.world world) :
    Relation.ReflTransGen (Step s) fleet { fleet with world } := by
  induction drift with
  | refl => exact .refl
  | tail _ drifts ih => exact ih.tail (.drift _ _ drifts)

/-- A caller can make the first exchanges of those that lead it to an end, and has the others left. -/
theorem run_of_yields {caller : Nat} {todo : Procedure Ending} {first second : List Exchange}
    {ending : Ending} (running : fleet.lives[caller]? = some todo)
    (yields : Yields todo (first ++ second) ending)
    (along : s.Along caller fleet.world first world) :
    ∃ left, Yields left second ending ∧ Relation.ReflTransGen (Step s) fleet
      ⟨world, fleet.lives.set caller left, fleet.journal ++ first.map (caller, ·)⟩ := by
  -- Each exchange is one step, after which the induction is used for the fleet it leads to.
  induction first generalizing fleet todo with
  | nil =>
    have same : fleet.lives.set caller todo = fleet.lives := by
      obtain ⟨inside, isTodo⟩ := List.getElem?_eq_some_iff.mp running
      rw [← isTodo]
      exact List.set_getElem_self inside
    refine ⟨todo, yields, ?_⟩
    rw [same, List.map_nil, List.append_nil]
    exact run_drift along
  | cons exchange rest ih =>
    cases yields with
    | request r onReply reply _ _ further =>
      obtain ⟨asked, answered, drift, answer, along⟩ := along
      have inside : caller < fleet.lives.length := (List.getElem?_eq_some_iff.mp running).1
      let after : Fleet σ := ⟨answered, fleet.lives.set caller (onReply reply),
        fleet.journal ++ [(caller, ⟨r, reply⟩)]⟩
      have goesOn : after.lives[caller]? = some (onReply reply) := List.getElem?_set_self inside
      have exchanges : Step s { fleet with world := asked } after :=
        .exchange { fleet with world := asked } caller r onReply reply answered running answer
      obtain ⟨left, yields, ends⟩ := ih goesOn further along
      rw [List.set_set, List.append_assoc] at ends
      exact ⟨left, yields, ((run_drift drift).tail exchanges).trans ends⟩

/-- In quiet surroundings a caller can be run to any end that it can come to, if the exchanges of
that, log events apart, can be made. -/
theorem exists_run (quiet : s.Quiet) {caller : Nat} {todo : Procedure Ending}
    {done : List Exchange} {ending : Ending} (running : fleet.lives[caller]? = some todo)
    (performs : todo.Performs done ending) (along : s.Along caller fleet.world done world) :
    ∃ trace, effects trace = done ∧ Relation.ReflTransGen (Step s) fleet
      ⟨world, fleet.lives.set caller (.done ending),
        fleet.journal ++ trace.map (caller, ·)⟩ := by
  obtain ⟨trace, yields, rfl⟩ := performs
  rw [← List.append_nil trace] at yields
  obtain ⟨left, yields, run⟩ := run_of_yields running yields (quiet.along_effects_iff.mp along)
  cases yields with
  | done ending => exact ⟨trace, rfl, run⟩

/-- In quiet surroundings a caller can be run to where it is about to make any of the exchanges that
it performs, if those before can be made. -/
theorem exists_run_until (quiet : s.Quiet) {caller : Nat} {todo : Procedure Ending} {r : Request}
    {reply : r.Reply} {done rest : List Exchange} {ending : Ending}
    (running : fleet.lives[caller]? = some todo)
    (performs : todo.Performs (done ++ ⟨r, reply⟩ :: rest) ending)
    (along : s.Along caller fleet.world done world) :
    ∃ trace next, effects trace = done ∧ Relation.ReflTransGen (Step s) fleet
      ⟨world, fleet.lives.set caller (.request r next),
        fleet.journal ++ trace.map (caller, ·)⟩ := by
  obtain ⟨trace, yields, split⟩ := performs
  obtain ⟨before, after, rfl, rfl, remains⟩ := List.filter_eq_append_iff.mp split
  obtain ⟨logs, later, rfl, silent, -⟩ := List.filter_eq_cons_iff.mp remains
  rw [← List.append_assoc] at yields
  have same : effects (before ++ logs) = effects before := by
    have none : effects logs = [] := List.filter_eq_nil_iff.mpr silent
    rw [effects_append, none, List.append_nil]
  have along' : s.Along caller fleet.world (before ++ logs) world := by
    rw [← quiet.along_effects_iff, same]
    exact along
  obtain ⟨left, yields, run⟩ := run_of_yields running yields along'
  cases yields with
  | request r next reply _ _ further => exact ⟨before ++ logs, next, same, run⟩

end Fleet

end HostEngine
