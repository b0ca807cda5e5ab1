import HostEngine.Proofs.Crowd
import HostEngine.Proofs.Fleet
import HostEngine.Proofs.Session.Reversal
/-!
# Only the own child is killed

A number is all that is known of a child, and numbers are used again. What keeps a kill from a
stranger is an order: a caller starts one child, kills it once, and waits for it after that only
(`Tended`). A child that was not waited for is still in the table, under its number and with its
caller as keeper, so the kill goes to that child.
-/
set_option autoImplicit false

namespace HostEngine

def children (done : List Exchange) : List UInt32 := done.filterMap Exchange.spawned?

def Untouched (done : List Exchange) : Prop :=
  ∀ exchange ∈ done, exchange.isSignal = false ∧ exchange.isWait = false

/-- What a caller may do about its child after all that it did before: start one, kill that one once,
and wait for it once, after any kill. -/
def Tended (past : List Exchange) : Exchange → Prop
  | ⟨.spawn _ _, .ok _⟩ => children past = []
  | ⟨.signal number sent, _⟩ =>
    sent = some .kill ∧ Untouched past ∧
      ∃ child, children past = [child] ∧ number = Program.kernelPid child
  | ⟨.wait child, _⟩ =>
    children past = [child] ∧ ∀ exchange ∈ past, exchange.isWait = false
  | _ => True

/-- The exchange neither starts nor signals nor waits for a process. -/
def Exchange.Plain (exchange : Exchange) : Prop :=
  exchange.spawned? = none ∧ exchange.isSignal = false ∧ exchange.isWait = false

/-- So far these children were started, and nothing was done to them. -/
def Bears (born : List UInt32) (past : List Exchange) : Prop :=
  children past = born ∧ Untouched past

variable {past done : List Exchange} {born : List UInt32}

theorem Exchange.Plain.tended {exchange : Exchange} (plain : exchange.Plain) :
    Tended past exchange := by
  obtain ⟨noChild, noSignal, noWait⟩ := plain
  unfold Tended
  split
  · cases noChild
  · cases noSignal
  · cases noWait
  · trivial

theorem obeys_of_plain (plain : ∀ exchange ∈ done, exchange.Plain) : Obeys Tended past done := by
  induction done generalizing past with
  | nil => trivial
  | cons exchange rest ih =>
    rw [List.forall_mem_cons] at plain
    exact ⟨plain.1.tended, ih plain.2⟩

theorem children_append (first second : List Exchange) :
    children (first ++ second) = children first ++ children second :=
  List.filterMap_append

theorem Bears.append_plain (bears : Bears born past) (plain : ∀ exchange ∈ done, exchange.Plain) :
    Bears born (past ++ done) := by
  constructor
  · have none : children done = [] := List.filterMap_eq_nil_iff.mpr fun e member => (plain e member).1
    rw [children_append, none, List.append_nil]
    exact bears.1
  · intro exchange member
    rcases List.mem_append.mp member with old | new
    · exact bears.2 exchange old
    · exact (plain exchange new).2

theorem Bears.append_spawn (bears : Bears [] past) (program : Octets) (arguments : List Octets)
    (child : UInt32) : Bears [child] (past ++ [⟨.spawn program arguments, .ok child⟩]) := by
  constructor
  · rw [children_append, bears.1]
    rfl
  · intro exchange member
    rcases List.mem_append.mp member with old | new
    · exact bears.2 exchange old
    · cases List.mem_singleton.mp new
      exact ⟨rfl, rfl⟩

namespace Session

theorem Calls.plain {library : Native.Library} (calls : Calls library done) :
    ∀ exchange ∈ done, exchange.Plain := by
  intro exchange member
  obtain ⟨call, reply, rfl⟩ := calls exchange member
  exact ⟨rfl, rfl, rfl⟩

theorem obeys_strike {child : UInt32} (bears : Bears [child] past) (kill : Except Kernel.Errno Unit)
    (reap : Except Kernel.Fault Kernel.Exit) (reaped : Bool) :
    Obeys Tended past (⟨.signal (Program.kernelPid child) (some .kill), kill⟩ ::
      if reaped then [⟨.wait child, reap⟩] else []) := by
  refine ⟨⟨rfl, bears.2, child, bears.1, rfl⟩, ?_⟩
  cases reaped with
  | false => trivial
  | true =>
    refine ⟨⟨?_, ?_⟩, trivial⟩
    · rw [children_append, bears.1]
      rfl
    · intro exchange member
      rcases List.mem_append.mp member with old | new
      · exact (bears.2 exchange old).2
      · cases List.mem_singleton.mp new
        rfl

theorem obeys_killing {child : UInt32} (bears : Bears [child] past)
    (kill : Except Kernel.Errno Unit) (reap : Except Kernel.Fault Kernel.Exit) :
    Obeys Tended past (killing child kill reap) :=
  obeys_strike bears kill reap kill.isOk

theorem obeys_dismissal {child : Child} (bears : Bears [child.pid] past) (closing : Closing) :
    Obeys Tended past (dismissal child closing) := by
  cases down : closing.isDown with
  | false =>
    rw [dismissal_of_not_isDown down]
    trivial
  | true =>
    rw [dismissal_of_isDown down]
    have asks : ∀ exchange ∈ ([⟨.runToEnd child.executable [.ofString terminateArgument],
        closing.terminate⟩] : List Exchange), exchange.Plain :=
      List.forall_mem_singleton.mpr ⟨rfl, rfl, rfl⟩
    refine ⟨trivial, ?_⟩
    cases Program.succeeded closing.terminate with
    | false => trivial
    | true => exact obeys_killing (bears.append_plain asks) closing.kill closing.reap

/-! ### Starts -/

theorem Launching.obeys {library : Native.Library} {executable path : Octets} {failure : Failure}
    (bears : Bears [] past)
    (launching : Launching library executable path done (.error failure)) :
    Obeys Tended past done := by
  cases launching with
  | unspawned fault remove =>
    apply obeys_of_plain
    simp [Exchange.Plain]
  | aborted pid rest _ kill reap remove linking =>
    have born := bears.append_spawn executable [.ofString socketArgument, path] pid
    have plain := linking.calls.plain
    refine ⟨bears.1, obeys_append_iff.mpr ⟨obeys_of_plain plain, obeys_append_iff.mpr ⟨?_, ?_⟩⟩⟩
    · exact obeys_killing (born.append_plain plain) kill reap
    · exact obeys_of_plain (List.forall_mem_singleton.mpr ⟨rfl, rfl, rfl⟩)

theorem Following.obeys {library : Native.Library} {options : ChildOptions} {plan : Plan}
    {failure : Failure} (bears : Bears [] past)
    (following : Following library options plan done (.error failure)) :
    Obeys Tended past done := by
  rcases following.of_failed with ⟨ask, step, asking, opening⟩ | childStart
  · exact obeys_of_plain (opening.calls asking).plain
  · cases childStart with
    | unnamed empty => trivial
    | unfound reason named => exact ⟨trivial, trivial⟩
    | unreserved executable fault named => exact ⟨trivial, trivial, trivial⟩
    | launched executable path rest _ named launching =>
      have plain : ∀ exchange ∈ ([⟨.find options.executable options.searchPath, .ok executable⟩,
          ⟨.reserve options.scratchDirectory options.socketStem, .ok path⟩] : List Exchange),
          exchange.Plain := by
        simp [Exchange.Plain]
      exact obeys_append_iff.mpr
        ⟨obeys_of_plain plain, launching.obeys (bears.append_plain plain)⟩

/-! ### Sessions -/

def births (session : Session) : List UInt32 := (session.child?.map Child.pid).toList

theorem reached_plain {library : Native.Library}
    {ask : Except Native.Failure Native.Handle → Exchange} {handle : Native.Handle}
    (asks : (ask (.ok handle)).Plain) :
    ∀ exchange ∈ reached library ask handle, exchange.Plain := by
  unfold reached
  rw [List.forall_mem_cons, List.forall_mem_singleton]
  exact ⟨⟨rfl, rfl, rfl⟩, asks⟩

/-- A start that ends with a session starts the session's child, and does nothing to it. -/
theorem bears_opening (options : Options) (session : Session) :
    Bears session.births (session.opening options) ∧
      Obeys Tended [] (session.opening options) := by
  have none : Bears [] [] := ⟨rfl, List.forall_mem_nil _⟩
  have loads : ∀ exchange ∈ ([⟨.load options.library, .ok session.library⟩] : List Exchange),
      exchange.Plain := List.forall_mem_singleton.mpr ⟨rfl, rfl, rfl⟩
  have loaded := none.append_plain loads
  obtain ⟨library, connection⟩ := session
  cases connection with
  | embedded handle =>
    have joins : ∀ exchange ∈ reached library (startExchange library) handle, exchange.Plain :=
      reached_plain ⟨rfl, rfl, rfl⟩
    exact ⟨loaded.append_plain joins, trivial, obeys_of_plain joins⟩
  | standalone link =>
    have joins : ∀ exchange ∈ reached library (connectExchange library link.target) link.handle,
        exchange.Plain := reached_plain ⟨rfl, rfl, rfl⟩
    exact ⟨loaded.append_plain joins, trivial, obeys_of_plain joins⟩
  | managedChild link child =>
    have joins : ∀ exchange ∈ reached library (connectExchange library link.target) link.handle,
        exchange.Plain := reached_plain ⟨rfl, rfl, rfl⟩
    have finds : ∀ exchange ∈ ([⟨.load options.library, .ok library⟩,
        ⟨.find options.child.executable options.child.searchPath, .ok child.executable⟩,
        ⟨.reserve options.child.scratchDirectory options.child.socketStem,
          .ok child.socketPath⟩] : List Exchange), exchange.Plain := by
      simp [Exchange.Plain]
    have found := none.append_plain finds
    have born := found.append_spawn child.executable [.ofString socketArgument, child.socketPath]
      child.pid
    have spawns : Obeys Tended _
        (⟨.spawn child.executable [.ofString socketArgument, child.socketPath], .ok child.pid⟩ ::
          reached library (connectExchange library link.target) link.handle) :=
      ⟨found.1, obeys_of_plain joins⟩
    exact ⟨born.append_plain joins, obeys_append_iff.mpr ⟨obeys_of_plain finds, spawns⟩⟩

theorem plain_closing (session : Session) (closing : Closing) :
    ∀ exchange ∈ [session.closeExchange closing.close] ++
      (if closing.close.isOk then [.called session.library .shutdown closing.shutdown] else []),
      exchange.Plain := by
  have closes : (session.closeExchange closing.close).Plain := by
    unfold closeExchange
    cases session.connection with
    | embedded handle => exact ⟨rfl, rfl, rfl⟩
    | standalone link => exact ⟨rfl, rfl, rfl⟩
    | managedChild link child => exact ⟨rfl, rfl, rfl⟩
  rw [List.singleton_append, List.forall_mem_cons]
  refine ⟨closes, ?_⟩
  cases closing.close.isOk with
  | true => exact List.forall_mem_singleton.mpr ⟨rfl, rfl, rfl⟩
  | false => exact List.forall_mem_nil _

theorem obeys_teardown {session : Session} (bears : Bears session.births past) (closing : Closing) :
    Obeys Tended past (session.teardown closing) := by
  have parts := plain_closing session closing
  refine obeys_append_iff.mpr ⟨obeys_append_iff.mpr ⟨obeys_of_plain parts, ?_⟩, ⟨trivial, trivial⟩⟩
  have bears' := bears.append_plain parts
  unfold bereaving
  unfold births at bears'
  cases isChild : session.child? with
  | none => trivial
  | some child =>
    rw [isChild] at bears'
    exact obeys_append_iff.mpr ⟨obeys_dismissal bears' closing, trivial, trivial⟩

theorem obeys_dropping (session : Session) (removed : Except Kernel.Fault Unit) :
    Obeys Tended past (session.dropping removed) := by
  refine ⟨trivial, ?_⟩
  cases session.child? with
  | none => trivial
  | some child => exact ⟨trivial, trivial⟩

theorem refused_of_dismissed {child : Child} {asked : Except Kernel.Fault Kernel.Exit}
    {kill : Except Kernel.Errno Unit} {pid : UInt32} {reason : String}
    (fails : dismissed child asked kill = .error (.forceKill pid reason)) :
    Program.succeeded asked = true ∧ ∃ errno, kill = .error errno := by
  have agreed := Program.isOk_verdict child.executable asked
  unfold dismissed at fails
  cases said : Program.verdict child.executable asked with
  | error failure =>
    rw [said] at fails
    cases fails
  | ok u =>
    rw [said] at agreed fails
    refine ⟨agreed.symm, ?_⟩
    cases kill with
    | ok v => cases fails
    | error errno => exact ⟨errno, rfl⟩

theorem dismissed_of_outcome {session : Session} {closing : Closing} {pid : UInt32}
    {reason : String} (fails : session.outcome closing = .error (.forceKill pid reason)) :
    closing.isDown = true ∧ ∃ child, session.child? = some child ∧
      dismissed child closing.terminate closing.kill = .error (.forceKill pid reason) := by
  unfold outcome at fails
  have down := isOk_parted session.closeStep closing.close closing.shutdown
  cases parts : parted session.closeStep closing.close closing.shutdown with
  | error failure =>
    have native : failure ≠ .forceKill pid reason := by
      unfold parted at parts
      cases closed : closing.close with
      | error failed =>
        rw [closed] at parts
        cases parts
        exact fun same => nomatch same
      | ok u =>
        cases shut : closing.shutdown with
        | error failed =>
          rw [closed, shut] at parts
          cases parts
          exact fun same => nomatch same
        | ok v =>
          rw [closed, shut] at parts
          cases parts
    rw [parts] at fails
    exact absurd (Except.error.inj fails) native
  | ok u =>
    rw [parts] at down fails
    refine ⟨down.symm, ?_⟩
    cases isChild : session.child? with
    | none =>
      rw [isChild] at fails
      cases fails
    | some child =>
      rw [isChild] at fails
      exact ⟨child, rfl, fails⟩

theorem refused_signal_mem_teardown {session : Session} {closing : Closing} {pid : UInt32}
    {reason : String} (fails : session.outcome closing = .error (.forceKill pid reason)) :
    ∃ number sent errno, (⟨.signal number sent, .error errno⟩ : Exchange) ∈
      session.teardown closing := by
  obtain ⟨down, child, isChild, ends⟩ := dismissed_of_outcome fails
  obtain ⟨asked, errno, refused⟩ := refused_of_dismissed ends
  refine ⟨Program.kernelPid child.pid, some .kill, errno, ?_⟩
  refine List.mem_append_left _ (List.mem_append_right _ ?_)
  rw [bereaving, isChild]
  refine List.mem_append_left _ ?_
  rw [dismissal_of_isDown down, asked, refused]
  exact List.mem_cons_of_mem _ List.mem_cons_self

end Session

namespace Fleet

open Session

theorem Life.obeys {options : Options} {mode : Mode} {args : List String} {ending : Ending}
    (life : Life options mode args done ending) : Obeys Tended [] done := by
  cases life with
  | failed _ failure startup =>
    cases startup with
    | refused _ unplanned => trivial
    | unloaded plan reason planned => exact ⟨trivial, trivial⟩
    | failed plan library rest _ unload planned following =>
      have loaded : Bears [] [⟨.load options.library, .ok library⟩] :=
        ⟨rfl, List.forall_mem_singleton.mpr ⟨rfl, rfl⟩⟩
      exact ⟨trivial, obeys_append_iff.mpr ⟨following.obeys loaded, trivial, trivial⟩⟩
  | started _ session startup =>
    obtain ⟨rfl, -⟩ := startup.eq_opening
    exact (bears_opening options session).2
  | closed opening session closing startup =>
    obtain ⟨rfl, -⟩ := startup.eq_opening
    obtain ⟨bears, opens⟩ := bears_opening options session
    exact obeys_append_iff.mpr ⟨opens, obeys_teardown bears closing⟩
  | dropped opening session removed startup =>
    obtain ⟨rfl, -⟩ := startup.eq_opening
    obtain ⟨-, opens⟩ := bears_opening options session
    exact obeys_append_iff.mpr ⟨opens, obeys_dropping session removed⟩

theorem Life.refused_signal {options : Options} {mode : Mode} {args : List String} {pid : UInt32}
    {reason : String}
    (life : Life options mode args done (.closed (.error (.forceKill pid reason)))) :
    ∃ number sent errno, (⟨.signal number sent, .error errno⟩ : Exchange) ∈ done := by
  generalize result : Ending.closed (.error (.forceKill pid reason)) = ending at life
  cases life with
  | failed _ failure startup => cases result
  | started _ session startup => cases result
  | dropped opening session removed startup => cases result
  | closed opening session closing startup =>
    obtain ⟨number, sent, errno, member⟩ :=
      refused_signal_mem_teardown (Ending.closed.inj result).symm
    exact ⟨number, sent, errno, List.mem_append_right _ member⟩

/-! ### Many sessions -/

variable {σ : Type} {s : Surroundings σ}

theorem plain_of_log {exchange : Exchange} (silent : exchange.isEffect = false) :
    exchange.Plain := by
  obtain ⟨request, reply⟩ := exchange
  cases request with
  | log event => exact ⟨rfl, rfl, rfl⟩
  | _ => cases silent

theorem Sound.tended {fleet : Fleet σ} (sound : fleet.Sound) {caller : Nat} {r : Request}
    {next : r.Reply → Procedure Ending} (asks : fleet.lives[caller]? = some (.request r next))
    (reply : r.Reply) : Tended (fleet.deeds caller) ⟨r, reply⟩ := by
  cases effect : Exchange.isEffect ⟨r, reply⟩ with
  | false => exact (plain_of_log effect).tended
  | true =>
    have lived := (sound.lived caller _ asks).exchange reply
    obtain ⟨options, mode, args, rest, ending, life⟩ := lived.exists_life
    have obeys := (obeys_append_iff.mp (obeys_append_iff.mp life.obeys).1).2
    rw [effects, List.filter_cons_of_pos effect] at obeys
    exact obeys.1

theorem reaped?_of_not_isWait {exchange : Exchange} (noWait : exchange.isWait = false) :
    exchange.reaped? = none := by
  cases reaped : exchange.reaped? with
  | none => rfl
  | some child =>
    obtain ⟨exit, rfl⟩ := Exchange.eq_of_reaped? reaped
    cases noWait

/-- What holds of the children of all callers at any time: who was not waited for is still there and
its caller's, and where signals to own children are heeded none was refused. -/
structure Kept (obliging : Prop) (fleet : Fleet Crowd) : Prop where
  sound : fleet.world.Sound
  owns : ∀ caller child, child ∈ children (fleet.deeds caller) →
    (∀ exchange ∈ fleet.deeds caller, exchange.reaped? = none) →
    fleet.world.Owns caller child.toNat
  heeded : obliging → ∀ caller number sent errno,
    (⟨.signal number sent, .error errno⟩ : Exchange) ∉ fleet.deeds caller

variable {obliging : Prop} {fleet next : Fleet Crowd} {caller : Nat}

theorem Kept.owns_only (kept : fleet.Kept obliging) {child : UInt32}
    (only : children (fleet.deeds caller) = [child])
    (unwaited : ∀ exchange ∈ fleet.deeds caller, exchange.isWait = false) :
    fleet.world.Owns caller child.toNat := by
  apply kept.owns caller child
  · rw [only]
    exact List.mem_cons_self
  · intro exchange member
    exact reaped?_of_not_isWait (unwaited exchange member)

theorem eq_of_mem_effects {exchange other : Exchange} (member : other ∈ effects [exchange]) :
    other = exchange :=
  List.mem_singleton.mp (List.mem_filter.mp member).1

theorem mem_effects_of_reaped {exchange : Exchange} {gone : UInt32}
    (reaped : exchange.reaped? = some gone) : exchange ∈ effects [exchange] := by
  obtain ⟨exit, rfl⟩ := Exchange.eq_of_reaped? reaped
  exact List.mem_cons_self

/-- Only its own caller takes a child out of the table. -/
theorem Kept.spares (kept : fleet.Kept obliging) {actor : Nat} {exchange : Exchange}
    (tended : Tended (fleet.deeds actor) exchange) (others : actor ≠ caller) {pid : Nat}
    (owns : fleet.world.Owns caller pid) {gone : UInt32}
    (reaped : exchange.reaped? = some gone) : pid ≠ gone.toNat := by
  obtain ⟨exit, rfl⟩ := Exchange.eq_of_reaped? reaped
  rintro rfl
  have owned := kept.owns_only tended.1 tended.2
  exact others (Option.some.inj (owned.2.symm.trans owns.2))

theorem Kept.exchange (kept : fleet.Kept obliging) {actor : Nat} {exchange : Exchange}
    {world : Crowd} {lives : List (Procedure Ending)}
    (tended : Tended (fleet.deeds actor) exchange)
    (answer : Crowd.Answers obliging actor fleet.world exchange world) :
    Kept obliging ⟨world, lives, fleet.journal ++ [(actor, exchange)]⟩ := by
  constructor
  · exact answer.sound kept.sound
  · intro caller child member unreaped
    rw [deeds_append] at member unreaped
    rw [answer.owns_iff]
    by_cases same : actor = caller
    · subst same
      rw [if_pos rfl, children_append] at member
      rw [if_pos rfl] at unreaped
      rcases List.mem_append.mp member with old | new
      · have owned : fleet.world.Owns actor child.toNat :=
          kept.owns actor child old fun e among => unreaped e (List.mem_append_left _ among)
        refine .inl ⟨owned, fun gone reaped => ?_⟩
        have none := unreaped exchange (List.mem_append_right _ (mem_effects_of_reaped reaped))
        cases none.symm.trans reaped
      · obtain ⟨spawn, among, spawned⟩ := List.mem_filterMap.mp new
        rw [eq_of_mem_effects among] at spawned
        exact .inr ⟨child, spawned, rfl, rfl⟩
    · rw [if_neg same, List.append_nil] at member unreaped
      -- It is the keeper alone who may wait for a child, so this exchange takes none of the caller's.
      have owned : fleet.world.Owns caller child.toNat := kept.owns caller child member unreaped
      exact .inl ⟨owned, fun gone reaped => kept.spares tended same owned reaped⟩
  · intro oblige caller number sent errno member
    rw [deeds_append] at member
    rcases List.mem_append.mp member with old | new
    · exact kept.heeded oblige caller number sent errno old
    · by_cases same : actor = caller
      · subst same
        rw [if_pos rfl] at new
        obtain rfl := eq_of_mem_effects new
        obtain ⟨-, untouched, child, only, rfl⟩ := tended
        have owns := kept.owns_only only fun e among => (untouched e among).2
        exact answer.1 oblige (Crowd.reachesOwn_of_owns kept.sound owns)
      · rw [if_neg same] at new
        cases new

theorem Step.kept (step : Step (Crowd.surroundings obliging) fleet next) (sound : fleet.Sound)
    (kept : fleet.Kept obliging) : next.Kept obliging := by
  cases step with
  | drift world drifts =>
    have drift : Crowd.Drift fleet.world world := drifts
    constructor
    · exact drift.sound kept.sound
    · intro caller child member unreaped
      exact drift.owns_iff.mpr (kept.owns caller child member unreaped)
    · exact kept.heeded
  | start options mode args => exact ⟨kept.sound, kept.owns, kept.heeded⟩
  | shutdown caller session running => exact ⟨kept.sound, kept.owns, kept.heeded⟩
  | drop caller session running => exact ⟨kept.sound, kept.owns, kept.heeded⟩
  | exchange actor r onReply reply world asks answer =>
    exact kept.exchange (sound.tended asks reply) answer

theorem Reachable.kept {crowd : Crowd} (distinct : crowd.pids.Nodup)
    (childless : ∀ pid, crowd.keeper pid = none)
    (reachable : Reachable (Crowd.surroundings obliging) crowd fleet) : fleet.Kept obliging := by
  induction reachable with
  | refl =>
    refine ⟨⟨distinct, ?_⟩, ?_, ?_⟩
    · intro caller pid owns
      cases (childless pid).symm.trans owns.2
    · rintro caller child ⟨⟩
    · rintro oblige caller number sent errno ⟨⟩
  | tail reachable step ih => exact step.kept (Reachable.sound reachable) ih

theorem countP_isSignal_of_tended {exchange : Exchange} (tended : Tended past exchange)
    (isSignal : exchange.isSignal = true) : past.countP Exchange.isSignal = 0 := by
  obtain ⟨request, reply⟩ := exchange
  cases request with
  | signal number sent =>
    obtain ⟨-, untouched, -⟩ := tended
    rw [List.countP_eq_zero]
    intro e member signals
    rw [(untouched e member).1] at signals
    cases signals
  | _ => cases isSignal

theorem countP_isSignal_le (obeys : Obeys Tended past done)
    (few : past.countP Exchange.isSignal ≤ 1) : (past ++ done).countP Exchange.isSignal ≤ 1 := by
  induction done generalizing past with
  | nil => rwa [List.append_nil]
  | cons exchange rest ih =>
    obtain ⟨tended, obeys⟩ := obeys
    rw [← List.singleton_append, ← List.append_assoc]
    apply ih obeys
    rw [List.countP_append]
    cases isSignal : exchange.isSignal with
    | false =>
      rw [List.countP_singleton, isSignal]
      exact few
    | true =>
      have none := countP_isSignal_of_tended tended isSignal
      rw [List.countP_singleton, isSignal, none]
      exact Nat.le_refl 1

theorem countP_isSignal_effects (trace : List Exchange) :
    (effects trace).countP Exchange.isSignal = trace.countP Exchange.isSignal := by
  unfold effects
  rw [List.countP_filter]
  apply List.countP_congr
  rintro ⟨request, reply⟩ member
  cases request with
  | log event => simp
  | _ => simp [Exchange.isEffect]

theorem Sound.obeys {σ : Type} {fleet : Fleet σ} (sound : fleet.Sound) (caller : Nat) :
    Obeys Tended [] (fleet.deeds caller) := by
  rcases Nat.lt_or_ge caller fleet.lives.length with inside | beyond
  · have lived := sound.lived caller _ (List.getElem?_eq_getElem inside)
    obtain ⟨options, mode, args, rest, ending, life⟩ := lived.exists_life
    exact (obeys_append_iff.mp life.obeys).1
  · rw [deeds, sound.unborn caller beyond]
    trivial

/-- The signal that a caller is about to send kills its own child. -/
structure KillsOwn (fleet : Fleet Crowd) (caller : Nat) (number : Int32)
    (sent : Option Kernel.Signal) : Prop where
  kills : sent = some .kill
  /-- The signal goes to one process. It has the number of the only child that the caller started,
  and the caller is its keeper. -/
  own : ∃ child process, children (fleet.deeds caller) = [child] ∧
    number = Program.kernelPid child ∧ fleet.world.addressees number = [process] ∧
    process.pid = child.toNat ∧ fleet.world.keeper process.pid = some caller
  /-- The child was neither signalled before nor waited for. -/
  untouched : Untouched (fleet.deeds caller)

/-- For any number of sessions with their exchanges in any order, while strangers come and go and
children end by themselves: every signal sent is the kill of the sender's own child, which is in the
table, running or ended; no caller sends more than one; and where a signal to an own child is heeded,
no shutdown fails for the kill. -/
theorem signals_kill_own_child {crowd : Crowd} (distinct : crowd.pids.Nodup)
    (childless : ∀ pid, crowd.keeper pid = none)
    (reachable : Reachable (Crowd.surroundings obliging) crowd fleet) :
    (∀ caller number sent next,
      fleet.lives[caller]? = some (.request (.signal number sent) next) →
        fleet.KillsOwn caller number sent) ∧
    (∀ caller, (fleet.past caller).countP Exchange.isSignal ≤ 1) ∧
    (obliging → ∀ (caller : Nat) (pid : UInt32) (reason : String),
      fleet.lives[caller]? ≠ some (.done (.closed (.error (.forceKill pid reason))))) := by
  have sound := reachable.sound
  have kept := reachable.kept distinct childless
  refine ⟨?_, ?_, ?_⟩
  · intro caller number sent next asks
    obtain ⟨kills, untouched, child, only, rfl⟩ := sound.tended asks (.ok ())
    have owns := kept.owns_only only fun exchange member => (untouched exchange member).2
    obtain ⟨process, alone, isChild⟩ := Crowd.addressees_of_owns kept.sound owns
    exact ⟨kills, ⟨child, process, only, rfl, alone, isChild, isChild ▸ owns.2⟩, untouched⟩
  · intro caller
    rw [← countP_isSignal_effects]
    exact countP_isSignal_le (sound.obeys caller) (Nat.zero_le 1)
  · intro oblige caller pid reason failed
    obtain ⟨options, mode, args, life⟩ := sound.lived caller _ failed
    have whole := life [] _ (Procedure.performs_pure_iff.mpr ⟨rfl, rfl⟩)
    rw [List.append_nil] at whole
    obtain ⟨number, sent, errno, refused⟩ := whole.refused_signal
    exact kept.heeded oblige caller number sent errno refused

/-- A child ended by itself before its session is shut down. Its number is still its own when the
kill is sent. -/
theorem signals_kill_own_child_ended :
    let crowd : Crowd := ⟨.fresh 2 3, fun _ => none⟩
    ∃ fleet next, Reachable (Crowd.surroundings True) crowd fleet ∧
      fleet.lives[0]? = some (.request (.signal (Program.kernelPid 42) (some .kill)) next) ∧
      fleet.world.addressees (Program.kernelPid 42) = [⟨42, 42, .ended (.code 0)⟩] ∧
      fleet.KillsOwn 0 (Program.kernelPid 42) (some .kill) := by
  intro crowd
  let library : Native.Library := ⟨0, Native.defaultLibrary⟩
  let session : Session := ⟨library, .managedChild ⟨⟨7⟩, ⟨[46], 1, rfl⟩⟩ ⟨42, [47], [46]⟩⟩
  have linking : Linking library ⟨42, [47], [46]⟩ _ (.ok ⟨⟨7⟩, ⟨[46], 1, rfl⟩⟩) :=
    .tried ⟨[46], 1, rfl⟩ _ (.ok ⟨7⟩) rfl (.opened ⟨7⟩)
  have startup : Startup .default .managedChild [] _ (.ok session) :=
    .started .managedChild library _ session.connection rfl
      (.managedChild _ _ (.launched [47] [46] _ _ rfl (.linked 42 _ _ linking)))
  let starting : Procedure Ending := Ending.ofStart <$> Session.start .default .managedChild []
  let closing : Procedure Ending := Ending.closed <$> session.shutdown
  have starts : starting.Performs (session.opening .default) (.started session) :=
    Procedure.performs_map_iff.mpr ⟨.ok session, performs_start_iff.mpr startup, rfl⟩
  have shuts : closing.Performs
      ([.called library (.disconnect ⟨7⟩) (.ok ()), .called library .shutdown (.ok ()),
        ⟨.runToEnd [47] [.ofString terminateArgument], .ok (.code 0)⟩] ++
        ⟨.signal (Program.kernelPid 42) (some .kill), .ok ()⟩ ::
          [⟨.wait 42, .ok (.code 0)⟩, ⟨.remove [46], .ok ()⟩, ⟨.unload library, .ok ()⟩]) _ :=
    Procedure.performs_map_iff.mpr ⟨_, performs_shutdown_iff.mpr ⟨.smooth, rfl, rfl⟩, rfl⟩
  let joined : Crowd := crowd.joined ⟨42, 42, .running (.code 0)⟩ (some 0)
  let ended : Crowd := { joined with processes := joined.processes.finish 42 }
  let born : Fleet Crowd := ⟨crowd, [starting], []⟩
  have begins : Reachable (Crowd.surroundings True) crowd born :=
    .single (.start ⟨crowd, [], []⟩ _ _ _)
  have bornTodo : born.lives[0]? = some starting := rfl
  have opens : (Crowd.surroundings True).Along 0 born.world (session.opening .default) joined := by
    refine ⟨crowd, crowd, .refl, rfl, ?_⟩
    refine ⟨crowd, crowd, .refl, rfl, ?_⟩
    refine ⟨crowd, crowd, .refl, rfl, ?_⟩
    refine ⟨crowd, joined, .refl, ⟨by decide, by decide, by decide, .code 0, rfl⟩, ?_⟩
    refine ⟨joined, joined, .refl, rfl, ?_⟩
    exact ⟨joined, joined, .refl, rfl, .refl⟩
  obtain ⟨opening, opened, toRunning⟩ :=
    exists_run (Crowd.quiet_surroundings True) bornTodo starts opens
  let running : Fleet Crowd := ⟨joined, [.done (.started session)], opening.map (0, ·)⟩
  let leaving : Fleet Crowd := { running with lives := [closing] }
  have leaves : Step (Crowd.surroundings True) running leaving := .shutdown running 0 session rfl
  have leavingTodo : leaving.lives[0]? = some closing := rfl
  -- The child ends before it is killed, and stays in the table as nobody waited for it.
  have ends : Relation.ReflTransGen Crowd.Drift joined ended := .single (.ending joined 42)
  have parts : (Crowd.surroundings True).Along 0 leaving.world
      [.called library (.disconnect ⟨7⟩) (.ok ()), .called library .shutdown (.ok ()),
        ⟨.runToEnd [47] [.ofString terminateArgument], .ok (.code 0)⟩] ended := by
    refine ⟨joined, joined, .refl, rfl, ?_⟩
    refine ⟨joined, joined, .refl, rfl, ?_⟩
    exact ⟨joined, joined, .refl, rfl, ends⟩
  obtain ⟨parting, next, -, toKill⟩ :=
    exists_run_until (Crowd.quiet_surroundings True) leavingTodo shuts parts
  have reachable := ((begins.trans toRunning).tail leaves).trans toKill
  have distinct : crowd.pids.Nodup := by decide
  obtain ⟨killsOwn, -, -⟩ := signals_kill_own_child distinct (fun _ => rfl) reachable
  exact ⟨_, next, reachable, rfl, by rfl, killsOwn 0 _ _ next rfl⟩

end Fleet

end HostEngine
