import HostEngine.Proofs.Session.Instances
import HostEngine.Proofs.StandIn
import HostEngine.Proofs.Surroundings
/-!
# The stand-in's replies

What a stand-in replies depends on what it is told to fail with and, for a load, on the number of its
next instance; not on what was done before. What it puts down in its journal and how many instances
it counts is given by the exchanges.
-/
set_option autoImplicit false

namespace HostEngine

open Machine Procedure

namespace Exchange

def isLoad : Exchange → Bool
  | ⟨.load _, _⟩ => true
  | _ => false

/-- What a stand-in puts down in its journal. -/
def record? : Exchange → Option Record
  | ⟨.load name, .ok _⟩ => some (.noted (.load name))
  | ⟨.call _ called, _⟩ => some (.noted (.ofCall called))
  | ⟨.unload _, _⟩ => some (.noted .unload)
  | _ => none

/-- How many instances of a stand-in there are afterwards. -/
def count : Exchange → Nat → Nat
  | ⟨.load _, .ok _⟩, live => live + 1
  | ⟨.unload _, _⟩, live | ⟨.discard _, _⟩, live => live - 1
  | _, live => live

theorem record?_renumbered (id : Nat) (exchange : Exchange) :
    (exchange.renumbered id).record? = exchange.record? := by
  obtain ⟨request, reply⟩ := exchange
  cases request with
  | load name =>
    cases reply with
    | ok library => rfl
    | error reason => rfl
  | _ => rfl

def Steady (exchange : Exchange) : Prop :=
  exchange.isLoad = false ∧ ∀ live, exchange.count live = live

theorem steady_of_joinRequest {library : Native.Library} {exchange : Exchange}
    (join : Session.JoinRequest library exchange.request) : exchange.Steady := by
  obtain ⟨request, reply⟩ := exchange
  cases request with
  | load name => cases join
  | unload library => cases join
  | discard library => cases join
  | _ => exact ⟨rfl, fun _ => rfl⟩

end Exchange

def countAfter (done : List Exchange) (live : Nat) : Nat :=
  done.foldl (fun live exchange => exchange.count live) live

theorem countAfter_append (first second : List Exchange) (live : Nat) :
    countAfter (first ++ second) live = countAfter second (countAfter first live) :=
  List.foldl_append

theorem countAfter_of_steady {done : List Exchange}
    (steady : ∀ exchange ∈ done, exchange.Steady) (live : Nat) : countAfter done live = live := by
  induction done with
  | nil => rfl
  | cons exchange rest ih =>
    obtain ⟨here, others⟩ := List.forall_mem_cons.mp steady
    show countAfter rest (exchange.count live) = live
    rw [here.2]
    exact ih others

namespace Machine.Natives

variable {missing : Bool} {failures : List (Point × Int32)} {setting : Setting}
  {outcomes : (r : Request) → r.Reply} {natives after : Natives} {done : List Exchange}

/-- Answers of a stand-in, with given outcomes of all that libraries have nothing to do with. -/
def answerOf (setting : Setting) (outcomes : (r : Request) → r.Reply) :
    (r : Request) → Natives × Unit → r.Reply × (Natives × Unit) :=
  answerAmid setting fun r u => (outcomes r, u)

/-- The replies of a stand-in whose next instance of a library has a certain number. -/
def replies (missing : Bool) (failures : List (Point × Int32)) (outcomes : (r : Request) → r.Reply)
    (id : Nat) : (r : Request) → r.Reply
  | .load name => if missing then .error missingMessage else .ok ⟨id, name⟩
  | .call _ called => reply (.standIn missing failures) called
  | .unload _ =>
    match failure? failures .unload with
    | some failure => .error failure.text
    | none => .ok ()
  | r => outcomes r

def amid (setting : Setting) (outcomes : (r : Request) → r.Reply) : Surroundings Natives where
  answers _ natives exchange next :=
    answerOf setting outcomes exchange.request (natives, ()) = (exchange.reply, next, ())
  drifts _ _ := False

theorem steady_amid : (amid setting outcomes).Steady := fun _ _ => id

theorem quiet_amid : (amid setting outcomes).Quiet := by
  rintro caller natives ⟨request, reply⟩ next silent
  cases request with
  | log event =>
    constructor
    · intro answers
      cases answers
      rfl
    · rintro rfl
      rfl
  | _ => cases silent

structure Answered (missing : Bool) (failures : List (Point × Int32))
    (outcomes : (r : Request) → r.Reply) (natives : Natives) (exchange : Exchange)
    (next : Natives) : Prop where
  reply : exchange.reply = replies missing failures outcomes natives.next exchange.request
  source : next.source = natives.source
  journal : next.journal = natives.journal ++ exchange.record?.toList
  live : next.live = exchange.count natives.live

theorem answered_of_answers {caller : Nat} {exchange : Exchange}
    (source : natives.source = .standIn missing failures)
    (answers : (amid setting outcomes).answers caller natives exchange after) :
    Answered missing failures outcomes natives exchange after := by
  obtain ⟨request, reply⟩ := exchange
  have given : answerOf setting outcomes request (natives, ()) = (reply, after, ()) := answers
  cases request with
  | load name =>
    cases missing with
    | true =>
      have loads : natives.load setting name = (natives, .error missingMessage) := by
        simp only [load, source, if_true]
      simp only [answerOf, answerAmid, loads, Prod.mk.injEq] at given
      obtain ⟨rfl, rfl, -⟩ := given
      exact ⟨rfl, rfl, (List.append_nil _).symm, rfl⟩
    | false =>
      simp only [answerOf, answerAmid, load_standIn source, Prod.mk.injEq] at given
      obtain ⟨rfl, rfl, -⟩ := given
      exact ⟨rfl, rfl, rfl, rfl⟩
  | call library called =>
    cases given
    refine ⟨?_, rfl, ?_, rfl⟩
    · show Natives.reply natives.source called = _
      rw [source]
      rfl
    · show natives.journal ++ [record natives.source called] = _
      rw [source]
      rfl
  | unload library =>
    have unloads : (natives.unload library).1 = (natives.note (.noted .unload)).dropInstance library ∧
        (natives.unload library).2 =
          replies missing failures outcomes natives.next (.unload library) := by
      cases failing : failure? failures .unload with
      | some failure => simp only [unload, source, replies, failing, and_self]
      | none => simp only [unload, source, replies, failing, and_self]
    simp only [answerOf, answerAmid, unloads.1, unloads.2, Prod.mk.injEq] at given
    obtain ⟨rfl, rfl, -⟩ := given
    exact ⟨rfl, rfl, rfl, rfl⟩
  | discard library =>
    have discards : natives.discard library = natives.dropInstance library := by
      simp only [discard, source]
    simp only [answerOf, answerAmid, discards, Prod.mk.injEq] at given
    obtain ⟨-, rfl, -⟩ := given
    exact ⟨rfl, rfl, (List.append_nil _).symm, rfl⟩
  | _ =>
    cases given
    exact ⟨rfl, rfl, (List.append_nil _).symm, rfl⟩

theorem exists_performs_along {α : Type} (setting : Setting) (outcomes : (r : Request) → r.Reply)
    (p : Procedure α) (natives : Natives) :
    ∃ done, p.Performs done (p.run (answerOf setting outcomes) (natives, ())).1 ∧
      (amid setting outcomes).Along 0 natives done
        (p.run (answerOf setting outcomes) (natives, ())).2.1 := by
  have along : (amid setting outcomes).Along 0 natives
      (p.trace (answerOf setting outcomes) (natives, ()))
      (p.run (answerOf setting outcomes) (natives, ())).2.1 :=
    Surroundings.along_trace (f := Prod.fst) (fun _ _ => rfl) p (natives, ())
  exact ⟨_, (yields_run _ p _).performs, quiet_amid.along_effects_iff.mpr along⟩

structure Accounts (natives : Natives) (done : List Exchange) (after : Natives) : Prop where
  source : after.source = natives.source
  journal : after.journal = natives.journal ++ done.filterMap Exchange.record?
  live : after.live = countAfter done natives.live

theorem accounts_of_along (source : natives.source = .standIn missing failures)
    (along : (amid setting outcomes).Along 0 natives done after) : Accounts natives done after := by
  induction done generalizing natives with
  | nil =>
    obtain rfl := steady_amid.along_nil_iff.mp along
    exact ⟨rfl, (List.append_nil _).symm, rfl⟩
  | cons exchange rest ih =>
    obtain ⟨next, answers, along⟩ := steady_amid.along_cons_iff.mp along
    have answered := answered_of_answers source answers
    obtain ⟨sourceAfter, journal, live⟩ := ih (answered.source.trans source) along
    refine ⟨sourceAfter.trans answered.source, ?_, ?_⟩
    · rw [journal, answered.journal, List.append_assoc, List.filterMap_cons]
      cases exchange.record? with
      | none => rfl
      | some record => rfl
    · rw [live, answered.live]
      rfl

theorem replies_of_not_load {exchange : Exchange} (loadless : exchange.isLoad = false)
    (id other : Nat) :
    replies missing failures outcomes id exchange.request =
      replies missing failures outcomes other exchange.request := by
  obtain ⟨request, reply⟩ := exchange
  cases request with
  | load name => cases loadless
  | _ => rfl

theorem replied_of_loadless (source : natives.source = .standIn missing failures)
    (along : (amid setting outcomes).Along 0 natives done after)
    (loadless : ∀ exchange ∈ done, exchange.isLoad = false) (id : Nat) :
    Replied (replies missing failures outcomes id) done := by
  induction done generalizing natives with
  | nil => exact List.forall_mem_nil _
  | cons exchange rest ih =>
    obtain ⟨next, answers, along⟩ := steady_amid.along_cons_iff.mp along
    obtain ⟨here, loadless⟩ := List.forall_mem_cons.mp loadless
    have answered := answered_of_answers source answers
    refine List.forall_mem_cons.mpr ⟨?_, ih (answered.source.trans source) along loadless⟩
    exact answered.reply.trans (replies_of_not_load here _ _)

/-- If a library is loaded first or never, the replies are all given by the next number. -/
theorem replied_of_along {id : Nat} (source : natives.source = .standIn missing failures)
    (along : (amid setting outcomes).Along 0 natives done after)
    (first : ∀ exchange ∈ done, exchange.isLoad = true → id = natives.next)
    (later : ∀ exchange ∈ done.tail, exchange.isLoad = false) :
    Replied (replies missing failures outcomes id) done := by
  cases done with
  | nil => exact List.forall_mem_nil _
  | cons exchange rest =>
    obtain ⟨next, answers, along⟩ := steady_amid.along_cons_iff.mp along
    have answered := answered_of_answers source answers
    have replied := replied_of_loadless (answered.source.trans source) along later id
    refine List.forall_mem_cons.mpr ⟨answered.reply.trans ?_, replied⟩
    cases loads : exchange.isLoad with
    | true => rw [first exchange List.mem_cons_self loads]
    | false => exact replies_of_not_load loads _ _

theorem replied_renumbered {id : Nat}
    (replied : Replied (replies missing failures outcomes id) done) (other : Nat) :
    Replied (replies missing failures outcomes other) (done.map (Exchange.renumbered other)) := by
  intro _ member
  obtain ⟨⟨request, reply⟩, among, rfl⟩ := List.mem_map.mp member
  have given : reply = replies missing failures outcomes id request := replied _ among
  subst given
  cases request with
  | load name =>
    cases missing with
    | true => rfl
    | false => rfl
  | _ => rfl

end Machine.Natives

end HostEngine
