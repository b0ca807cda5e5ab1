import HostEngine.Proofs.StandIn.Replies
import Mathlib.Data.Finset.Card
/-!
# Sessions that share a stand-in

Sessions take turns in being started, shut down and dropped, with one stand-in for all of them. None
notices the others: each turn has the result it would have if its session were the only one, and the
journal is what these turns put down, one after another (`sessions_isolated`).
-/
set_option autoImplicit false

namespace HostEngine

open Machine Procedure

/-! ### What a session can be told to do -/

/-- What one sees of a session: all but the number of its library's instance. -/
def Session.view (session : Session) : String × Connection :=
  (session.library.name, session.connection)

theorem Session.exists_renumbered_of_view {session other : Session}
    (view : other.view = session.view) : ∃ id, other = session.renumbered id := by
  obtain ⟨library, connection⟩ := session
  obtain ⟨⟨id, name⟩, connection'⟩ := other
  cases view
  exact ⟨id, rfl⟩

inductive Operation where
  | start (options : Options) (mode : Mode) (args : List String)
  | shutdown
  | drop

inductive Result where
  | started (outcome : Except Failure (String × Connection))
  | ended (outcome : Except Failure Unit)
  | dropped
  /-- A session that runs was to be started, or one that does not run was to be ended. -/
  | impossible

namespace Operation

def act : Operation → Option Session → Procedure (Option Session × Result)
  | .start options mode args, none => do
    let outcome ← Session.start options mode args
    return (outcome.toOption, .started (outcome.map Session.view))
  | .shutdown, some session => do
    let outcome ← session.shutdown
    return (none, .ended outcome)
  | .drop, some session => do
    session.drop
    return (none, .dropped)
  | .start _ _ _, some session => return (some session, .impossible)
  | .shutdown, none | .drop, none => return (none, .impossible)

inductive Acting : Operation → Option Session → List Exchange → Option Session × Result → Prop
  | started {options : Options} {mode : Mode} {args : List String} {done : List Exchange}
      {outcome : Except Failure Session}
      (startup : Session.Startup options mode args done outcome) :
    Acting (.start options mode args) none done
      (outcome.toOption, .started (outcome.map Session.view))
  | ended (session : Session) (closing : Session.Closing) :
    Acting .shutdown (some session) (session.teardown closing)
      (none, .ended (session.outcome closing))
  | dropped (session : Session) (removed : Except Kernel.Fault Unit) :
    Acting .drop (some session) (session.dropping removed) (none, .dropped)
  | running (options : Options) (mode : Mode) (args : List String) (session : Session) :
    Acting (.start options mode args) (some session) [] (some session, .impossible)
  | notRunning {operation : Operation} (ends : operation = .shutdown ∨ operation = .drop) :
    Acting operation none [] (none, .impossible)

variable {operation : Operation} {held : Option Session} {done : List Exchange}
  {ended : Option Session × Result}

theorem acting_of_performs (performs : (operation.act held).Performs done ended) :
    Acting operation held done ended := by
  cases operation with
  | start options mode args =>
    cases held with
    | none =>
      obtain ⟨outcome, startup, rfl⟩ := performs_map_iff.mp performs
      exact .started (Session.performs_start_iff.mp startup)
    | some session =>
      obtain ⟨rfl, rfl⟩ := performs_pure_iff.mp performs
      exact .running options mode args session
  | shutdown =>
    cases held with
    | none =>
      obtain ⟨rfl, rfl⟩ := performs_pure_iff.mp performs
      exact .notRunning (.inl rfl)
    | some session =>
      obtain ⟨outcome, ends, rfl⟩ := performs_map_iff.mp performs
      obtain ⟨closing, rfl, rfl⟩ := Session.performs_shutdown_iff.mp ends
      exact .ended session closing
  | drop =>
    cases held with
    | none =>
      obtain ⟨rfl, rfl⟩ := performs_pure_iff.mp performs
      exact .notRunning (.inr rfl)
    | some session =>
      obtain ⟨u, drops, rfl⟩ := performs_map_iff.mp performs
      obtain ⟨removed, rfl⟩ := Session.performs_drop_iff.mp drops
      exact .dropped session removed

theorem Acting.performs (acting : Acting operation held done ended) :
    (operation.act held).Performs done ended := by
  cases acting with
  | started startup =>
    exact performs_map_iff.mpr ⟨_, Session.performs_start_iff.mpr startup, rfl⟩
  | ended session closing =>
    exact performs_map_iff.mpr ⟨_, Session.performs_shutdown_iff.mpr ⟨closing, rfl, rfl⟩, rfl⟩
  | dropped session removed =>
    exact performs_map_iff.mpr ⟨(), Session.performs_drop_iff.mpr ⟨removed, rfl⟩, rfl⟩
  | running options mode args session => exact performs_pure_iff.mpr ⟨rfl, rfl⟩
  | notRunning ends =>
    rcases ends with rfl | rfl
    · exact performs_pure_iff.mpr ⟨rfl, rfl⟩
    · exact performs_pure_iff.mpr ⟨rfl, rfl⟩

theorem Acting.renumbered (acting : Acting operation held done ended) (id : Nat) :
    Acting operation (held.map (Session.renumbered id)) (done.map (Exchange.renumbered id))
      (ended.1.map (Session.renumbered id), ended.2) := by
  cases acting with
  | @started _ _ _ _ outcome startup =>
    have acting := Acting.started (startup.renumbered id)
    cases outcome with
    | ok session => exact acting
    | error failure => exact acting
  | ended session closing =>
    rw [← Session.teardown_renumbered]
    exact .ended (session.renumbered id) closing
  | dropped session removed =>
    rw [← Session.dropping_renumbered]
    exact .dropped (session.renumbered id) removed
  | running options mode args session => exact .running options mode args _
  | notRunning ends => exact .notRunning ends

/-! #### Loads and instances -/

theorem steady_lowering (session : Session) (closing : Session.Closing) :
    ∀ exchange ∈ session.lowering closing, exchange.Steady := by
  refine Session.forall_mem_lowering ?_ ⟨rfl, fun _ => rfl⟩ fun _ _ => ⟨?_, rfl, fun _ => rfl⟩
  · obtain ⟨library, connection⟩ := session
    cases connection with
    | embedded handle => exact ⟨rfl, fun _ => rfl⟩
    | standalone link => exact ⟨rfl, fun _ => rfl⟩
    | managedChild link child => exact ⟨rfl, fun _ => rfl⟩
  · exact Session.forall_mem_dismissal ⟨rfl, fun _ => rfl⟩ ⟨rfl, fun _ => rfl⟩
      ⟨rfl, fun _ => rfl⟩

theorem exists_dropping (session : Session) (removed : Except Kernel.Fault Unit) :
    ∃ rest, session.dropping removed = ⟨.discard session.library, ()⟩ :: rest ∧
      ∀ exchange ∈ rest, exchange.Steady := by
  refine ⟨_, rfl, ?_⟩
  cases session.child? with
  | none => exact List.forall_mem_nil _
  | some child => exact List.forall_mem_singleton.mpr ⟨rfl, fun _ => rfl⟩

theorem steady_following {library : Native.Library} {options : ChildOptions} {plan : Session.Plan}
    {connected : Except Failure Connection}
    (following : Session.Following library options plan done connected) :
    ∀ exchange ∈ done, exchange.Steady :=
  fun exchange member => Exchange.steady_of_joinRequest (following.joinRequest exchange member)

theorem Acting.loadless {session : Session} (acting : Acting operation (some session) done ended) :
    ∀ exchange ∈ done, exchange.isLoad = false := by
  cases acting with
  | ended session closing =>
    refine List.forall_mem_append.mpr ⟨?_, List.forall_mem_singleton.mpr rfl⟩
    exact fun exchange member => (steady_lowering session closing exchange member).1
  | dropped session removed =>
    obtain ⟨rest, dropping, steady⟩ := exists_dropping session removed
    rw [dropping]
    exact List.forall_mem_cons.mpr ⟨rfl, fun exchange member => (steady exchange member).1⟩
  | running options mode args session => exact List.forall_mem_nil _

theorem Acting.loadless_tail (acting : Acting operation held done ended) :
    ∀ exchange ∈ done.tail, exchange.isLoad = false := by
  cases held with
  | some session => exact fun exchange member => acting.loadless _ (List.mem_of_mem_tail member)
  | none =>
    cases acting with
    | started startup =>
      cases startup with
      | refused failure unplanned => exact List.forall_mem_nil _
      | unloaded plan reason planned => exact List.forall_mem_nil _
      | failed plan library rest failure unload planned following =>
        refine List.forall_mem_append.mpr ⟨?_, List.forall_mem_singleton.mpr rfl⟩
        exact fun exchange member => (steady_following following exchange member).1
      | started plan library rest connection planned following =>
        exact fun exchange member => (steady_following following exchange member).1
    | notRunning ends => exact List.forall_mem_nil _

/-- As many instances come into being as sessions. -/
theorem Acting.countAfter (acting : Acting operation held done ended) {live : Nat}
    (counted : held.isSome.toNat ≤ live) :
    countAfter done live + held.isSome.toNat = live + ended.1.isSome.toNat := by
  cases acting with
  | started startup =>
    cases startup with
    | refused failure unplanned => rfl
    | unloaded plan reason planned => rfl
    | failed plan library rest failure unload planned following =>
      have kept : HostEngine.countAfter rest (live + 1) = live + 1 :=
        countAfter_of_steady (steady_following following) _
      rw [List.cons_append, ← List.singleton_append, countAfter_append, countAfter_append]
      show HostEngine.countAfter rest (live + 1) - 1 = live
      rw [kept, Nat.add_sub_cancel]
    | started plan library rest connection planned following =>
      exact countAfter_of_steady (steady_following following) (live + 1)
  | ended session closing =>
    have kept : HostEngine.countAfter (session.lowering closing) live = live :=
      countAfter_of_steady (steady_lowering session closing) live
    unfold Session.teardown
    rw [countAfter_append, kept]
    exact Nat.sub_add_cancel counted
  | dropped session removed =>
    obtain ⟨rest, dropping, steady⟩ := exists_dropping session removed
    rw [dropping]
    show HostEngine.countAfter rest (live - 1) + 1 = live
    rw [countAfter_of_steady steady]
    exact Nat.sub_add_cancel counted
  | running options mode args session => rfl
  | notRunning ends => rfl

end Operation

/-! ### Taking turns -/

/-- A stand-in and the sessions that share it, each with a number of its own. -/
structure Shared where
  natives : Natives
  sessions : Nat → Option Session

/-- One session's turn. All that libraries have nothing to do with has given outcomes; an operation
makes no such request twice. -/
structure Turn where
  who : Nat
  operation : Operation
  outcomes : (r : Request) → r.Reply

/-- What one sees of a turn. -/
structure Report where
  who : Nat
  result : Result
  block : List Record

namespace Turn

variable (setting : Natives.Setting)

def take (turn : Turn) (shared : Shared) : Report × Shared :=
  let ran := (turn.operation.act (shared.sessions turn.who)).run
    (Natives.answerOf setting turn.outcomes) (shared.natives, ())
  (⟨turn.who, ran.1.2, ran.2.1.journal.drop shared.natives.journal.length⟩,
    ⟨ran.2.1, Function.update shared.sessions turn.who ran.1.1⟩)

def takeAll : List Turn → Shared → List Report × Shared
  | [], shared => ([], shared)
  | turn :: rest, shared =>
    ((turn.take setting shared).1 :: (takeAll rest (turn.take setting shared).2).1,
      (takeAll rest (turn.take setting shared).2).2)

end Turn

namespace Shared

def fresh (missing : Bool) (failures : List (Point × Int32)) : Shared :=
  ⟨.fresh (.standIn missing failures), fun _ => none⟩

variable {missing : Bool} {failures : List (Point × Int32)} {setting : Natives.Setting}
  {turn : Turn} {shared alone : Shared} {who : Nat}

structure Taken (setting : Natives.Setting) (turn : Turn) (shared : Shared)
    (done : List Exchange) : Prop where
  acting : turn.operation.Acting (shared.sessions turn.who) done
    ((turn.take setting shared).2.sessions turn.who, (turn.take setting shared).1.result)
  along : (Natives.amid setting turn.outcomes).Along 0 shared.natives done
    (turn.take setting shared).2.natives
  accounts : Natives.Accounts shared.natives done (turn.take setting shared).2.natives
  block : (turn.take setting shared).1.block = done.filterMap Exchange.record?

theorem exists_taken (setting : Natives.Setting) (turn : Turn)
    (source : shared.natives.source = .standIn missing failures) :
    ∃ done, Taken setting turn shared done := by
  obtain ⟨done, performs, along⟩ := Natives.exists_performs_along setting turn.outcomes
    (turn.operation.act (shared.sessions turn.who)) shared.natives
  have accounts := Natives.accounts_of_along source along
  refine ⟨done, ?_, along, accounts, ?_⟩
  · have kept : (turn.take setting shared).2.sessions turn.who = _ := Function.update_self _ _ _
    rw [kept]
    exact Operation.acting_of_performs performs
  · show List.drop _ _ = _
    rw [accounts.journal, List.drop_left]

theorem sessions_take_of_ne (other : who ≠ turn.who) :
    (turn.take setting shared).2.sessions who = shared.sessions who :=
  Function.update_of_ne other _ _

/-! ### With others and alone -/

/-- A session among others and the same session alone. -/
structure Alike (missing : Bool) (failures : List (Point × Int32)) (who : Nat)
    (shared alone : Shared) : Prop where
  source : shared.natives.source = .standIn missing failures
  source_alone : alone.natives.source = .standIn missing failures
  view : (alone.sessions who).map Session.view = (shared.sessions who).map Session.view

theorem Alike.exists_renumbered (alike : Alike missing failures who shared alone) :
    ∃ id, alone.sessions who = (shared.sessions who).map (Session.renumbered id) ∧
      (alone.sessions who = none → id = alone.natives.next) := by
  have view := alike.view
  cases held : alone.sessions who with
  | none =>
    rw [held] at view
    have bare : shared.sessions who = none := Option.map_eq_none_iff.mp view.symm
    refine ⟨alone.natives.next, ?_, fun _ => rfl⟩
    rw [bare]
    rfl
  | some session =>
    rw [held] at view
    obtain ⟨other, runs, same⟩ := Option.map_eq_some_iff.mp view.symm
    obtain ⟨id, renumbered⟩ := Session.exists_renumbered_of_view same.symm
    refine ⟨id, ?_, nofun⟩
    rw [runs, renumbered]
    rfl

/-- Its own turn goes for a session among others as it goes alone. -/
theorem Alike.take (alike : Alike missing failures turn.who shared alone)
    (setting : Natives.Setting) :
    (turn.take setting alone).1 = (turn.take setting shared).1 ∧
      Alike missing failures turn.who (turn.take setting shared).2 (turn.take setting alone).2 := by
  obtain ⟨done, taken⟩ := exists_taken setting turn alike.source
  obtain ⟨done', taken'⟩ := exists_taken setting turn alike.source_alone
  obtain ⟨id, renumbered, next⟩ := alike.exists_renumbered
  -- Alone, the session holds another instance of its library. With this in the place of its own, what
  -- it did among the others is one way for its operation to go, and replies leave only one.
  have replied := Natives.replied_of_along alike.source taken.along (fun _ _ _ => rfl)
    taken.acting.loadless_tail
  have loads : ∀ exchange ∈ done', exchange.isLoad = true → id = alone.natives.next := by
    intro exchange member isLoad
    cases held : alone.sessions turn.who with
    | none => exact next held
    | some session =>
      have loadless := (held ▸ taken'.acting).loadless exchange member
      rw [isLoad] at loadless
      cases loadless
  have replied' := Natives.replied_of_along alike.source_alone taken'.along loads
    taken'.acting.loadless_tail
  have performs := (taken.acting.renumbered id).performs
  rw [← renumbered] at performs
  obtain ⟨same, ended⟩ :=
    performs.unique taken'.acting.performs (Natives.replied_renumbered replied id) replied'
  obtain ⟨sessions, result⟩ := Prod.mk.inj ended
  have block : (turn.take setting alone).1.block = (turn.take setting shared).1.block := by
    rw [taken.block, taken'.block, same, List.filterMap_map]
    exact List.filterMap_congr fun exchange _ => Exchange.record?_renumbered id exchange
  refine ⟨?_, taken.accounts.source.trans alike.source,
    taken'.accounts.source.trans alike.source_alone, ?_⟩
  · show Report.mk _ _ _ = Report.mk _ _ _
    exact congrArg₂ (Report.mk turn.who) result block
  · rw [sessions, Option.map_map]
    rfl

/-- The others' turns go by without a difference. -/
theorem Alike.take_other (alike : Alike missing failures who shared alone)
    (other : who ≠ turn.who) (setting : Natives.Setting) :
    Alike missing failures who (turn.take setting shared).2 alone := by
  obtain ⟨done, taken⟩ := exists_taken setting turn alike.source
  refine ⟨taken.accounts.source.trans alike.source, alike.source_alone, ?_⟩
  rw [sessions_take_of_ne other]
  exact alike.view

theorem Alike.takeAll (alike : Alike missing failures who shared alone)
    (setting : Natives.Setting) (turns : List Turn) :
    (Turn.takeAll setting turns shared).1.filter (·.who = who) =
        (Turn.takeAll setting (turns.filter (·.who = who)) alone).1 ∧
      Alike missing failures who (Turn.takeAll setting turns shared).2
        (Turn.takeAll setting (turns.filter (·.who = who)) alone).2 := by
  induction turns generalizing shared alone with
  | nil => exact ⟨rfl, alike⟩
  | cons turn rest ih =>
    by_cases own : turn.who = who
    · subst own
      obtain ⟨report, alike⟩ := alike.take setting
      obtain ⟨reports, alike⟩ := ih alike
      rw [List.filter_cons_of_pos (by simp)]
      refine ⟨?_, alike⟩
      show List.filter _ ((turn.take setting shared).1 :: _) = (turn.take setting alone).1 :: _
      rw [List.filter_cons_of_pos (by simp [Turn.take]), reports, report]
    · obtain ⟨reports, alike⟩ := ih (alike.take_other (Ne.symm own) setting)
      rw [List.filter_cons_of_neg (by simp [own])]
      refine ⟨?_, alike⟩
      show List.filter _ ((turn.take setting shared).1 :: _) = _
      rw [List.filter_cons_of_neg (by simp [Turn.take, own]), reports]

/-! ### The journal and the instances of all -/

theorem who_takeAll (turns : List Turn) (shared : Shared) :
    (Turn.takeAll setting turns shared).1.map Report.who = turns.map Turn.who := by
  induction turns generalizing shared with
  | nil => rfl
  | cons turn rest ih => exact congrArg (turn.who :: ·) (ih _)

theorem journal_takeAll (source : shared.natives.source = .standIn missing failures)
    (turns : List Turn) :
    (Turn.takeAll setting turns shared).2.natives.journal =
      shared.natives.journal ++ (Turn.takeAll setting turns shared).1.flatMap Report.block := by
  induction turns generalizing shared with
  | nil => exact (List.append_nil _).symm
  | cons turn rest ih =>
    obtain ⟨done, taken⟩ := exists_taken setting turn source
    have later := ih (taken.accounts.source.trans source)
    rw [taken.accounts.journal, ← taken.block, List.append_assoc] at later
    exact later

/-- The stand-in has as many instances as there are sessions that run. -/
def Counted (shared : Shared) : Prop :=
  ∃ running : Finset Nat, (∀ who, who ∈ running ↔ (shared.sessions who).isSome) ∧
    shared.natives.live = running.card

theorem counted_fresh : (fresh missing failures).Counted :=
  ⟨∅, fun _ => by simp [fresh], rfl⟩

theorem Counted.take (counted : shared.Counted)
    (source : shared.natives.source = .standIn missing failures) :
    (turn.take setting shared).2.Counted := by
  obtain ⟨done, taken⟩ := exists_taken setting turn source
  obtain ⟨running, mem_iff, live⟩ := counted
  have others : shared.natives.live =
      (running.erase turn.who).card + (shared.sessions turn.who).isSome.toNat := by
    rw [live]
    cases held : (shared.sessions turn.who).isSome with
    | true => exact (Finset.card_erase_add_one ((mem_iff _).mpr held)).symm
    | false =>
      have absent : turn.who ∉ running := by simp [mem_iff, held]
      rw [Finset.erase_eq_of_notMem absent]
      rfl
  have after := taken.acting.countAfter (others ▸ Nat.le_add_left _ _)
  rw [← taken.accounts.live] at after
  have kept (who : Nat) (other : who ≠ turn.who) : who ∈ running.erase turn.who ↔
      ((turn.take setting shared).2.sessions who).isSome := by
    rw [sessions_take_of_ne other, Finset.mem_erase, mem_iff]
    exact and_iff_right other
  cases runs : ((turn.take setting shared).2.sessions turn.who).isSome with
  | true =>
    refine ⟨insert turn.who (running.erase turn.who), fun who => ?_, ?_⟩
    · by_cases own : who = turn.who
      · simp [own, runs]
      · rw [Finset.mem_insert, or_iff_right own]
        exact kept who own
    · rw [Finset.card_insert_of_notMem (Finset.notMem_erase _ _)]
      simp only [runs, Bool.toNat_true] at after
      omega
  | false =>
    refine ⟨running.erase turn.who, fun who => ?_, ?_⟩
    · by_cases own : who = turn.who
      · simp [own, runs]
      · exact kept who own
    · simp only [runs, Bool.toNat_false] at after
      omega

theorem Counted.takeAll (counted : shared.Counted)
    (source : shared.natives.source = .standIn missing failures) (turns : List Turn) :
    (Turn.takeAll setting turns shared).2.Counted := by
  induction turns generalizing shared with
  | nil => exact counted
  | cons turn rest ih =>
    obtain ⟨done, taken⟩ := exists_taken setting turn source
    exact ih (counted.take source) (taken.accounts.source.trans source)

theorem Counted.live_eq {other : Shared} (counted : shared.Counted) (counted' : other.Counted)
    (same : ∀ who, (shared.sessions who).isSome = (other.sessions who).isSome) :
    shared.natives.live = other.natives.live := by
  obtain ⟨running, mem_iff, live⟩ := counted
  obtain ⟨running', mem_iff', live'⟩ := counted'
  have equal : running = running' := Finset.ext fun who => by rw [mem_iff, mem_iff', same]
  rw [live, live', equal]

theorem alike_fresh (missing : Bool) (failures : List (Point × Int32)) (who : Nat) :
    Alike missing failures who (fresh missing failures) (fresh missing failures) :=
  ⟨rfl, rfl, rfl⟩

/-- Each session's last word is the same in any order that keeps its own turns in order. -/
theorem isSome_takeAll_of_reordered {turns turns' : List Turn} {who : Nat}
    (reordered : turns'.filter (·.who = who) = turns.filter (·.who = who)) :
    ((Turn.takeAll setting turns' (fresh missing failures)).2.sessions who).isSome =
      ((Turn.takeAll setting turns (fresh missing failures)).2.sessions who).isSome := by
  have view := ((alike_fresh missing failures who).takeAll setting turns).2.view
  have view' := ((alike_fresh missing failures who).takeAll setting turns').2.view
  rw [reordered, view] at view'
  have same := congrArg Option.isSome view'
  rw [Option.isSome_map, Option.isSome_map] at same
  exact same.symm

end Shared

open Shared Turn in
/-- Sessions that share a stand-in, whatever it fails with, whichever turns they take and whatever
comes of all that libraries have nothing to do with: every session has the reports it has alone, the
reports come in the order of the turns, and the journal is what they put down, one after another. In
another order, in which each session keeps its turns, every session has the same reports, and as
many instances of the library are left. -/
theorem sessions_isolated (setting : Natives.Setting) (missing : Bool)
    (failures : List (Point × Int32)) (turns : List Turn) :
    let outcome (turns : List Turn) := takeAll setting turns (fresh missing failures)
    (∀ who, (outcome turns).1.filter (·.who = who) =
      (outcome (turns.filter (·.who = who))).1) ∧
    (outcome turns).1.map Report.who = turns.map Turn.who ∧
    (outcome turns).2.natives.journal = (outcome turns).1.flatMap Report.block ∧
    ∀ turns', (∀ who, turns'.filter (·.who = who) = turns.filter (·.who = who)) →
      (∀ who, (outcome turns').1.filter (·.who = who) =
        (outcome turns).1.filter (·.who = who)) ∧
      (outcome turns').2.natives.live = (outcome turns).2.natives.live := by
  intro outcome
  have alone (turns : List Turn) (who : Nat) : (outcome turns).1.filter (·.who = who) =
      (outcome (turns.filter (·.who = who))).1 :=
    ((alike_fresh missing failures who).takeAll setting turns).1
  refine ⟨alone turns, who_takeAll turns _, journal_takeAll rfl turns, ?_⟩
  intro turns' reordered
  constructor
  · intro who
    rw [alone, alone, reordered]
  · have counted (turns : List Turn) : (outcome turns).2.Counted := counted_fresh.takeAll rfl turns
    exact (counted turns').live_eq (counted turns) fun who =>
      isSome_takeAll_of_reordered (reordered who)

open Shared Turn in
/-- Of two sessions the one that starts first is shut down in the end. -/
theorem sessions_isolated_of_two :
    let setting : Natives.Setting := ⟨⟨[]⟩, ⟨[], false⟩, []⟩
    let start (who : Nat) : Turn := ⟨who, .start Options.default .embedded [], anyReply⟩
    let shutdown (who : Nat) : Turn := ⟨who, .shutdown, anyReply⟩
    let failures : List (Point × Int32) := [(.call .stopEmbedded, -21)]
    let turns := [start 0, start 1, shutdown 0]
    let turns' := [start 1, start 0, shutdown 0]
    let outcome (turns : List Turn) := takeAll setting turns (fresh false failures)
    (∀ who, turns'.filter (·.who = who) = turns.filter (·.who = who)) ∧
      (outcome turns).2.natives.live = 1 ∧
      (outcome turns').2.natives.live = (outcome turns).2.natives.live := by
  refine ⟨?_, by decide +kernel, ((sessions_isolated _ _ _ _).2.2.2 _ ?_).2⟩
  all_goals
    intro who
    match who with
    | 0 => rfl
    | 1 => rfl
    | _ + 2 => rfl

end HostEngine
