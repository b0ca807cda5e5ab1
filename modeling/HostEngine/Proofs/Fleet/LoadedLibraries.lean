import HostEngine.Proofs.Fleet.Holdings
import HostEngine.Proofs.Natives
import HostEngine.Proofs.Session.Reversal
import Mathlib.Algebra.BigOperators.Group.Finset.Basic
/-!
# The loaded libraries

A fleet loads libraries and closes them, and so do others beside it, who load, close and let go as
they like. The counts of the machine they do it on agree with what they all hold: a stand-in counts
one instance for each library, and a file is mapped as long as a library that was opened from it is
held (`libraries_accounted`).
-/
set_option autoImplicit false

namespace HostEngine

open Machine (Natives)

/-- Libraries that are loaded, and given back by closing them or letting them go. -/
def Resource.libraries : Resource Native.Library where
  gained? := Exchange.loaded?
  lost?
    | ⟨.unload library, _⟩ | ⟨.discard library, _⟩ => some library
    | _ => none
  silent := by
    rintro ⟨request, reply⟩ silent
    cases request with
    | log event => exact ⟨rfl, rfl⟩
    | _ => cases silent

def Ending.libraries : Ending → Finset Native.Library
  | .started session => {session.library}
  | .failed _ | .closed _ | .dropped => ∅

/-! ### Lives -/

namespace Session

open Resource

variable {library : Native.Library} {done : List Exchange}

theorem JoinRequest.idle_libraries {exchange : Exchange}
    (join : JoinRequest library exchange.request) : Resource.libraries.Idle exchange := by
  refine ⟨join.loaded?, ?_⟩
  obtain ⟨request, reply⟩ := exchange
  cases request with
  | unload other => cases join
  | discard other => cases join
  | _ => rfl

theorem Following.turns_libraries {options : ChildOptions} {plan : Plan} {name : String}
    {connected : Except Failure Connection}
    (following : Following library options plan done connected) :
    Resource.libraries.Turns ∅ (⟨.load name, .ok library⟩ :: done) {library} := by
  have idle : ∀ exchange ∈ done, Resource.libraries.Idle exchange :=
    fun exchange member => (following.joinRequest exchange member).idle_libraries
  have loads : Resource.libraries.Turns ∅ [⟨.load name, .ok library⟩] {library} :=
    turns_of_gained rfl rfl
  exact loads.then_idle idle

theorem Startup.turns_libraries_of_failed {options : Options} {mode : Mode} {args : List String}
    {failure : Failure} (startup : Startup options mode args done (.error failure)) :
    Resource.libraries.Turns ∅ done ∅ := by
  cases startup with
  | refused _ unplanned => rfl
  | unloaded plan reason planned =>
    exact turns_of_idle (List.forall_mem_singleton.mpr ⟨rfl, rfl⟩)
  | failed plan library rest _ unload planned following =>
    exact turns_append_iff.mpr ⟨_, following.turns_libraries, turns_of_lost rfl rfl⟩

theorem Startup.turns_libraries_of_ok {options : Options} {mode : Mode} {args : List String}
    {session : Session} (startup : Startup options mode args done (.ok session)) :
    Resource.libraries.Turns ∅ done {session.library} := by
  cases startup with
  | started plan library rest connection planned following => exact following.turns_libraries

theorem turns_libraries_teardown (session : Session) (closing : Closing) :
    Resource.libraries.Turns {session.library} (session.teardown closing) ∅ := by
  have idle : ∀ exchange ∈ session.lowering closing, Resource.libraries.Idle exchange := by
    apply forall_mem_lowering
    · unfold closeExchange
      cases session.connection with
      | embedded handle => exact ⟨rfl, rfl⟩
      | standalone link => exact ⟨rfl, rfl⟩
      | managedChild link child => exact ⟨rfl, rfl⟩
    · exact ⟨rfl, rfl⟩
    · intro child _
      exact ⟨forall_mem_dismissal ⟨rfl, rfl⟩ ⟨rfl, rfl⟩ ⟨rfl, rfl⟩, ⟨rfl, rfl⟩⟩
  exact Turns.after_idle idle (turns_of_lost rfl rfl)

theorem turns_libraries_dropping (session : Session) (removed : Except Kernel.Fault Unit) :
    Resource.libraries.Turns {session.library} (session.dropping removed) ∅ := by
  have discards : Resource.libraries.Turns {session.library} [⟨.discard session.library, ()⟩] ∅ :=
    turns_of_lost rfl rfl
  unfold dropping
  cases session.child? with
  | none => exact discards
  | some child => exact discards.then_idle (List.forall_mem_singleton.mpr ⟨rfl, rfl⟩)

end Session

namespace Fleet

open Resource Session

theorem thrifty_libraries : Thrifty Resource.libraries Ending.libraries := by
  intro options mode args done ending life
  cases life with
  | failed _ failure startup => exact startup.turns_libraries_of_failed
  | started _ session startup => exact startup.turns_libraries_of_ok
  | closed opened session closing startup =>
    exact turns_append_iff.mpr
      ⟨_, startup.turns_libraries_of_ok, turns_libraries_teardown session closing⟩
  | dropped opened session removed startup =>
    exact turns_append_iff.mpr
      ⟨_, startup.turns_libraries_of_ok, turns_libraries_dropping session removed⟩

end Fleet

/-! ### A machine's libraries -/

namespace Machine.Natives

variable {natives next : Natives} {exchange : Exchange}

/-- The counts are right after an exchange, which gained only what was not held. -/
structure Settles (natives : Natives) (exchange : Exchange) (next : Natives) : Prop where
  sound : next.Sound
  isStandIn : next.source.isStandIn = natives.source.isStandIn
  fresh : ∀ library, Resource.libraries.gained? exchange = some library →
    library ∉ natives.libraries
  libraries_eq : next.libraries = Resource.libraries.after natives.libraries exchange

theorem Keeps.settles (keeps : Keeps natives next) (sound : natives.Sound)
    (idle : Resource.libraries.Idle exchange) : Settles natives exchange next := by
  obtain ⟨soundNow, same⟩ := sound.keeps keeps
  refine ⟨soundNow, keeps.isStandIn, fun library gained => ?_, ?_⟩
  · cases idle.1.symm.trans gained
  · rw [same, Resource.after_of_idle idle]

theorem Gains.settles {holding : Holding} (gains : Gains natives holding next)
    (sound : natives.Sound) (gained : Resource.libraries.gained? exchange = some holding.library)
    (kept : Resource.libraries.lost? exchange = none) : Settles natives exchange next := by
  obtain ⟨soundNow, fresh, inserted⟩ := sound.gains gains
  refine ⟨soundNow, gains.isStandIn, fun library also => ?_, ?_⟩
  · cases gained.symm.trans also
    exact fresh
  · rw [inserted, Resource.after_of_gained gained kept]

theorem Loses.settles {holding : Holding} (loses : Loses natives holding next)
    (sound : natives.Sound) (member : holding ∈ natives.held)
    (lost : Resource.libraries.lost? exchange = some holding.library)
    (nothing : Resource.libraries.gained? exchange = none) : Settles natives exchange next := by
  obtain ⟨soundNow, erased⟩ := sound.loses member loses
  refine ⟨soundNow, loses.isStandIn, fun library gained => ?_, ?_⟩
  · cases nothing.symm.trans gained
  · rw [erased, Resource.after_of_lost lost nothing]

theorem Sound.settles (sound : natives.Sound) (answer : natives.Answers exchange next)
    (owns : ∀ library, Resource.libraries.lost? exchange = some library →
      library ∈ natives.libraries) : Settles natives exchange next := by
  obtain ⟨request, reply⟩ := exchange
  cases request with
  | load name =>
    obtain ⟨setting, loads⟩ := answer
    rcases natives.load_cases setting name with ⟨holding, ok, gains⟩ | ⟨reason, failed, keeps⟩
    · rw [loads] at ok gains
      cases ok
      exact gains.settles sound rfl rfl
    · rw [loads] at failed keeps
      cases failed
      exact keeps.settles sound ⟨rfl, rfl⟩
  | call library call =>
    cases answer
    exact (natives.keeps_call call).settles sound ⟨rfl, rfl⟩
  | unload library =>
    obtain ⟨file, member⟩ := mem_libraries_iff.mp (owns library rfl)
    have unloads : natives.unload library = (next, reply) := answer
    have loses := sound.loses_unload member
    rw [unloads] at loses
    exact loses.settles sound member rfl rfl
  | discard library =>
    obtain ⟨file, member⟩ := mem_libraries_iff.mp (owns library rfl)
    have discards : next = natives.discard library := answer
    have loses := sound.loses_discard member
    rw [← discards] at loses
    exact loses.settles sound member rfl rfl
  | _ =>
    cases answer
    exact natives.keeps_refl.settles sound ⟨rfl, rfl⟩

theorem Sound.isMapped_iff (sound : natives.Sound) (opens : natives.source.isStandIn = false)
    (file : Machine.Path) :
    natives.isMapped file = true ↔ ∃ library, ⟨library, file⟩ ∈ natives.held := by
  unfold Natives.isMapped
  rw [decide_eq_true_iff, ← Nat.pos_iff_ne_zero, sound.openCount opens, List.countP_pos_iff]
  constructor
  · rintro ⟨⟨library, other⟩, member, same⟩
    cases of_decide_eq_true same
    exact ⟨library, member⟩
  · rintro ⟨library, member⟩
    exact ⟨⟨library, file⟩, member, decide_eq_true rfl⟩

theorem Sound.live_eq_card (sound : natives.Sound) (standIn : natives.source.isStandIn = true) :
    natives.live = natives.libraries.card := by
  unfold libraries
  rw [sound.live standIn, List.toFinset_card_of_nodup sound.distinct, List.length_map]

/-- Closing a library of a stand-in counts it down, whatever that is reported to come to. -/
theorem Loses.live_succ {holding : Holding} (loses : Loses natives holding next)
    (sound : natives.Sound) (member : holding ∈ natives.held)
    (standIn : natives.source.isStandIn = true) : next.live + 1 = natives.live := by
  have some : 0 < natives.held.length := List.length_pos_of_mem member
  rw [loses.live standIn, sound.live standIn]
  omega

end Machine.Natives

/-! ### A fleet and others -/

/-- The libraries of a machine, and those of them that others than the callers hold. -/
structure Shelf where
  natives : Natives
  loose : Finset Native.Library

namespace Shelf

/-- How a shelf changes without the callers: the others make an exchange, by which they give back
only what they hold, or the functions of the libraries begin to return something else. -/
inductive Drift : Shelf → Shelf → Prop
  | exchange (shelf : Shelf) (exchange : Exchange) (natives : Natives)
    (answer : shelf.natives.Answers exchange natives)
    (owns : ∀ library, Resource.libraries.lost? exchange = some library → library ∈ shelf.loose) :
    Drift shelf ⟨natives, Resource.libraries.after shelf.loose exchange⟩
  | altered (shelf : Shelf) (source : Machine.Source)
    (kind : source.isStandIn = shelf.natives.source.isStandIn) :
    Drift shelf { shelf with natives := { shelf.natives with source } }

/-- A shelf as surroundings. Whatever else a request asks for may be answered in any way. -/
def surroundings : Surroundings Shelf where
  answers _ shelf exchange next :=
    shelf.natives.Answers exchange next.natives ∧ next.loose = shelf.loose
  drifts := Drift

def empty (source : Machine.Source) : Shelf := ⟨Natives.fresh source, ∅⟩

theorem quiet_surroundings : surroundings.Quiet := by
  rintro caller shelf ⟨request, reply⟩ next silent
  cases request with
  | log event =>
    constructor
    · rintro ⟨sameNatives, sameLoose⟩
      obtain ⟨natives, loose⟩ := next
      cases sameNatives
      cases sameLoose
      rfl
    · rintro rfl
      exact ⟨rfl, rfl⟩
  | _ => cases silent

/-- A shelf allows for all that a machine does to its libraries while it runs a procedure. -/
theorem along_machine {α : Type} (caller : Nat) (loose : Finset Native.Library)
    (machine : Machine) (p : Procedure α) :
    surroundings.Along caller ⟨machine.natives, loose⟩ (p.trace Machine.answer machine)
      ⟨(machine.run p).2.natives, loose⟩ := by
  let seen (state : Machine) : Shelf := ⟨state.natives, loose⟩
  have answers (r : Request) (state : Machine) : surroundings.answers caller (seen state)
      ⟨r, (Machine.answer r state).1⟩ (seen (Machine.answer r state).2) :=
    ⟨state.answers_answer r, rfl⟩
  exact Surroundings.along_trace answers p machine

end Shelf

namespace Fleet

open Resource Session

/-- The account of a shelf, on which libraries come from a stand-in or not. -/
def shelfAccounts (standIn : Bool) : Accounts Shelf.surroundings Resource.libraries where
  all shelf := shelf.natives.libraries
  others shelf := shelf.loose
  sound shelf := shelf.natives.Sound ∧ shelf.natives.source.isStandIn = standIn
  answers answer sound owns := by
    have settles := sound.1.settles answer.1 owns
    exact ⟨⟨settles.sound, settles.isStandIn.trans sound.2⟩, settles.fresh, settles.libraries_eq,
      answer.2⟩
  drifts drift sound subset := by
    cases drift with
    | exchange exchange natives answer owns =>
      have settles := sound.1.settles answer fun library lost => subset (owns library lost)
      refine ⟨⟨settles.sound, settles.isStandIn.trans sound.2⟩, ?_, fun library => ?_⟩
      · intro library loose
        rw [settles.libraries_eq]
        rcases mem_after_iff.mp loose with ⟨was, kept⟩ | gained
        · exact mem_after_iff.mpr (.inl ⟨subset was, kept⟩)
        · exact mem_after_iff.mpr (.inr gained)
      · rw [settles.libraries_eq, mem_after_iff, mem_after_iff]
        constructor
        · rintro ⟨⟨was, kept⟩ | gained, mine⟩
          · exact ⟨was, fun loose => mine (.inl ⟨loose, kept⟩)⟩
          · exact absurd (.inr gained) mine
        · rintro ⟨was, mine⟩
          refine ⟨.inl ⟨was, fun lost => mine (owns library lost)⟩, ?_⟩
          rintro (⟨loose, -⟩ | gained)
          · exact mine loose
          · exact settles.fresh library gained was
    | altered source kind =>
      have altered := sound.1.keeps (Natives.keeps_of_altered kind)
      exact ⟨⟨altered.1, kind.trans sound.2⟩, subset, fun library => Iff.rfl⟩

/-- The libraries that a caller loaded and neither closed nor let go. -/
def opened {σ : Type} (fleet : Fleet σ) (caller : Nat) : Finset Native.Library :=
  Resource.libraries.held (fleet.deeds caller)

def IsHeld (fleet : Fleet Shelf) (library : Native.Library) : Prop :=
  library ∈ fleet.world.loose ∨ ∃ caller, library ∈ fleet.opened caller

/-- A caller is about to close a library or to let it go. -/
def Releases {σ : Type} (fleet : Fleet σ) (caller : Nat) (library : Native.Library) : Prop :=
  (∃ next, fleet.lives[caller]? = some (.request (.unload library) next)) ∨
    ∃ next, fleet.lives[caller]? = some (.request (.discard library) next)

/-- The counts of a machine agree with what callers and others hold. -/
structure LibrariesAccounted (standIn : Bool) (fleet : Fleet Shelf) : Prop where
  isStandIn : fleet.world.natives.source.isStandIn = standIn
  /-- What is loaded on the machine is what callers and others hold. -/
  isHeld_iff : ∀ library, fleet.IsHeld library ↔
    ∃ file, ⟨library, file⟩ ∈ fleet.world.natives.held
  /-- A caller holds what it loaded for itself. -/
  apart : ∀ caller, ∀ library ∈ fleet.opened caller, library ∉ fleet.world.loose
  single : ∀ first second, ∀ library ∈ fleet.opened first, library ∈ fleet.opened second →
    first = second
  /-- A running session holds its library; nothing is held for one that failed to start, was shut
  down or dropped. -/
  ended : ∀ caller ending, fleet.lives[caller]? = some (.done ending) →
    fleet.opened caller = ending.libraries
  /-- A caller closes only what it holds. -/
  releases : ∀ caller library, fleet.Releases caller library → library ∈ fleet.opened caller
  /-- There is one instance of a stand-in for each library that is held. -/
  live_eq : standIn = true → fleet.world.natives.live =
    fleet.world.loose.card + ∑ caller ∈ Finset.range fleet.lives.length, (fleet.opened caller).card
  /-- There is one less once a library is closed, even if that is said to fail, or let go. -/
  live_succ : standIn = true → ∀ library, fleet.IsHeld library →
    (fleet.world.natives.unload library).1.live + 1 = fleet.world.natives.live ∧
      (fleet.world.natives.discard library).live + 1 = fleet.world.natives.live
  /-- A file is mapped if and only if a library that was opened from it is held. -/
  isMapped_iff : standIn = false → ∀ file, fleet.world.natives.isMapped file = true ↔
    ∃ library, fleet.IsHeld library ∧ ⟨library, file⟩ ∈ fleet.world.natives.held
  loads : standIn = false → ∀ setting name, fleet.world.natives.LoadsFile setting name
  /-- A load that fails leaves the same files mapped. -/
  unloaded : standIn = false → ∀ setting name reason,
    (fleet.world.natives.load setting name).2 = .error reason →
    ∀ file, (fleet.world.natives.load setting name).1.isMapped file =
      fleet.world.natives.isMapped file

theorem opened_of_releases {σ : Type} {fleet : Fleet σ} (sound : fleet.Sound) {caller : Nat}
    {library : Native.Library} (releases : fleet.Releases caller library) :
    library ∈ fleet.opened caller := by
  rcases releases with ⟨next, asks⟩ | ⟨next, asks⟩
  · have lived := (sound.lived caller _ asks).exchange (.ok ())
    exact lived.holds_lost thrifty_libraries rfl
  · have lived := (sound.lived caller _ asks).exchange ()
    exact lived.holds_lost thrifty_libraries rfl

theorem card_libraries {standIn : Bool} {fleet : Fleet Shelf} (sound : fleet.Sound)
    (stocked : Stocked (shelfAccounts standIn) fleet) :
    fleet.world.natives.libraries.card = fleet.world.loose.card +
      ∑ caller ∈ Finset.range fleet.lives.length, (fleet.opened caller).card := by
  have all : fleet.world.natives.libraries = fleet.world.loose ∪
      (Finset.range fleet.lives.length).biUnion fleet.opened := by
    ext library
    rw [Finset.mem_union, Finset.mem_biUnion]
    refine (stocked.mem_all_iff library).trans (or_congr_right (exists_congr fun caller => ?_))
    -- Nobody holds anything under a number that was not given yet.
    constructor
    · intro holds
      refine ⟨Finset.mem_range.mpr (Nat.lt_of_not_le fun beyond => ?_), holds⟩
      rw [sound.deeds_of_unborn beyond] at holds
      cases holds
    · exact And.right
  have apart : Disjoint fleet.world.loose
      ((Finset.range fleet.lives.length).biUnion fleet.opened) := by
    rw [Finset.disjoint_right]
    intro library member
    obtain ⟨caller, -, holds⟩ := Finset.mem_biUnion.mp member
    exact stocked.apart holds
  rw [all, Finset.card_union_of_disjoint apart, Finset.card_biUnion]
  intro first _ second _ differ
  rw [Function.onFun, Finset.disjoint_left]
  intro library holds holds'
  exact differ (stocked.single first second library holds holds')

/-- However a fleet and others go about loading and closing libraries, the counts agree with what
they hold. -/
theorem libraries_accounted {source : Machine.Source} {fleet : Fleet Shelf}
    (reachable : Reachable Shelf.surroundings (.empty source) fleet) :
    LibrariesAccounted source.isStandIn fleet := by
  have sound := reachable.sound
  have stocked := Reachable.stocked (shelfAccounts source.isStandIn) thrifty_libraries
    ⟨Natives.sound_fresh source, rfl⟩ rfl reachable
  obtain ⟨counts, kind⟩ := stocked.sound
  have isHeld_iff (library : Native.Library) : fleet.IsHeld library ↔
      ∃ file, ⟨library, file⟩ ∈ fleet.world.natives.held :=
    (stocked.mem_all_iff library).symm.trans Natives.mem_libraries_iff
  constructor
  case isStandIn => exact kind
  case isHeld_iff => exact isHeld_iff
  case apart =>
    intro caller library holds
    exact stocked.apart holds
  case single => exact stocked.single
  case ended =>
    intro caller ending ended
    exact thrifty_libraries.held_of_ended sound ended
  case releases =>
    intro caller library releases
    exact opened_of_releases sound releases
  case live_eq =>
    intro standIn
    rw [counts.live_eq_card (kind.trans standIn), card_libraries sound stocked]
  case live_succ =>
    intro standIn library held
    obtain ⟨file, member⟩ := (isHeld_iff library).mp held
    have isStandIn := kind.trans standIn
    exact ⟨(counts.loses_unload member).live_succ counts member isStandIn,
      (counts.loses_discard member).live_succ counts member isStandIn⟩
  case isMapped_iff =>
    intro opens file
    rw [counts.isMapped_iff (kind.trans opens)]
    constructor
    · rintro ⟨library, member⟩
      exact ⟨library, (isHeld_iff library).mpr ⟨file, member⟩, member⟩
    · rintro ⟨library, -, member⟩
      exact ⟨library, member⟩
  case loads =>
    intro opens setting name
    exact Natives.loadsFile (kind.trans opens) setting name
  case unloaded =>
    intro opens setting name reason failed
    exact ((Natives.loadsFile (kind.trans opens) setting name).error reason failed).isMapped

/-- A session with an embedded engine is started by means of a stand-in, and then others load a
library. -/
theorem libraries_accounted_of_embedded :
    let session : Session := ⟨⟨0, Native.defaultLibrary⟩, .embedded Natives.standInHandle⟩
    ∃ fleet, Reachable Shelf.surroundings (.empty (.standIn false [])) fleet ∧
      fleet.Running 0 session ∧ fleet.world.natives.live = 2 ∧ LibrariesAccounted true fleet := by
  intro session
  have startup : Startup .default .embedded [] (session.opening .default) (.ok session) :=
    .started .embedded session.library _ session.connection rfl
      (.embedded _ (.ok Natives.standInHandle) (.opened Natives.standInHandle))
  have starts : (Ending.ofStart <$> Session.start .default .embedded []).Performs _ _ :=
    Procedure.performs_map_iff.mpr ⟨.ok session, performs_start_iff.mpr startup, rfl⟩
  let todo : Procedure Ending := Ending.ofStart <$> Session.start .default .embedded []
  let setting : Natives.Setting := ⟨⟨[]⟩, ⟨[], false⟩, []⟩
  let shelf : Shelf := .empty (.standIn false [])
  let loaded : Shelf := ⟨(shelf.natives.load setting Native.defaultLibrary).1, ∅⟩
  let ready : Shelf := ⟨(loaded.natives.call .init).1, ∅⟩
  let started : Shelf := ⟨(ready.natives.call (.startEmbedded .automatic)).1, ∅⟩
  let born : Fleet Shelf := ⟨shelf, [todo], []⟩
  have begins : Reachable Shelf.surroundings shelf born := .single (.start ⟨shelf, [], []⟩ _ _ _)
  have bornTodo : born.lives[0]? = some todo := rfl
  have along : Shelf.surroundings.Along 0 shelf (session.opening .default) started := by
    refine ⟨shelf, loaded, .refl, ⟨⟨setting, rfl⟩, rfl⟩, ?_⟩
    refine ⟨loaded, ready, .refl, ⟨rfl, rfl⟩, ?_⟩
    exact ⟨ready, started, .refl, ⟨rfl, rfl⟩, .refl⟩
  obtain ⟨trace, -, toRunning⟩ := exists_run Shelf.quiet_surroundings bornTodo starts along
  have loads : Shelf.Drift started
      ⟨(started.natives.load setting Native.defaultLibrary).1, {⟨1, Native.defaultLibrary⟩}⟩ := by
    refine .exchange started ⟨.load _, .ok ⟨1, Native.defaultLibrary⟩⟩ _ ⟨setting, rfl⟩ ?_
    rintro library ⟨⟩
  have reachable := (begins.trans toRunning).tail (.drift _ _ loads)
  exact ⟨_, reachable, rfl, rfl, libraries_accounted reachable⟩

end Fleet

end HostEngine
