import HostEngine.Proofs.Fleet.Holdings
import HostEngine.Proofs.Host
import HostEngine.Proofs.Session.Reversal
/-!
# The scratch directory

In a directory where nobody else adds or removes entries, a fleet leaves alone what was there, and has
one path there for each session with a child that was started and neither shut down nor dropped
(`scratch_directory_kept`).
-/
set_option autoImplicit false

namespace HostEngine

/-- Paths that are reserved, and given back by their removal. -/
def Resource.paths : Resource Octets where
  gained?
    | ⟨.reserve _ _, .ok path⟩ => some path
    | _ => none
  lost?
    | ⟨.remove path, _⟩ => some path
    | _ => none
  silent := by
    rintro ⟨request, reply⟩ silent
    cases request with
    | log event => exact ⟨rfl, rfl⟩
    | _ => cases silent

/-- The paths that a session holds: that of its child's socket, if it has a child. -/
def Session.paths (session : Session) : Finset Octets :=
  match session.child? with
  | none => ∅
  | some child => {child.socketPath}

def Ending.paths : Ending → Finset Octets
  | .started session => session.paths
  | .failed _ | .closed _ | .dropped => ∅

namespace Session

open Resource

variable {library : Native.Library} {done : List Exchange}

/-! ### Failed starts -/

theorem Calls.idle_paths (calls : Calls library done) :
    ∀ exchange ∈ done, Resource.paths.Idle exchange := by
  intro exchange member
  obtain ⟨call, reply, rfl⟩ := calls exchange member
  exact ⟨rfl, rfl⟩

theorem idle_paths_killing (pid : UInt32) (kill : Except Kernel.Errno Unit)
    (reap : Except Kernel.Fault Kernel.Exit) :
    ∀ exchange ∈ killing pid kill reap, Resource.paths.Idle exchange := by
  cases kill with
  | ok u => exact List.forall_mem_cons.mpr ⟨⟨rfl, rfl⟩, List.forall_mem_singleton.mpr ⟨rfl, rfl⟩⟩
  | error errno => exact List.forall_mem_singleton.mpr ⟨rfl, rfl⟩

theorem turns_remove (path : Octets) (remove : Except Kernel.Fault Unit) :
    Resource.paths.Turns {path} [⟨.remove path, remove⟩] ∅ := turns_of_lost rfl rfl

theorem Launching.turns_paths {executable path : Octets} {failure : Failure}
    (launching : Launching library executable path done (.error failure)) :
    Resource.paths.Turns {path} done ∅ := by
  cases launching with
  | unspawned fault remove =>
    exact Turns.after_idle (List.forall_mem_singleton.mpr ⟨rfl, rfl⟩) (turns_remove path remove)
  | aborted pid rest _ kill reap remove linking =>
    have kills : Resource.paths.Turns {path} (killing pid kill reap ++ [⟨.remove path, remove⟩]) ∅ :=
      Turns.after_idle (idle_paths_killing pid kill reap) (turns_remove path remove)
    have links : Resource.paths.Turns {path} (rest ++ _) ∅ :=
      Turns.after_idle linking.calls.idle_paths kills
    exact Turns.after_idle (List.forall_mem_singleton.mpr ⟨rfl, rfl⟩) links

theorem turns_reserve (directory : Octets) (stem : String) (path : Octets) :
    Resource.paths.Turns ∅ [⟨.reserve directory stem, .ok path⟩] {path} := turns_of_gained rfl rfl

theorem ChildStart.turns_paths {options : ChildOptions} {failure : Failure}
    (start : ChildStart library options done (.error failure)) : Resource.paths.Turns ∅ done ∅ := by
  cases start with
  | unnamed empty => rfl
  | unfound reason named => exact turns_of_idle (List.forall_mem_singleton.mpr ⟨rfl, rfl⟩)
  | unreserved executable fault named =>
    apply turns_of_idle
    rw [List.forall_mem_cons, List.forall_mem_singleton]
    exact ⟨⟨rfl, rfl⟩, rfl, rfl⟩
  | launched executable path rest _ named launching =>
    have reserves := turns_append_iff.mpr
      ⟨_, turns_reserve options.scratchDirectory options.socketStem path, launching.turns_paths⟩
    exact Turns.after_idle (List.forall_mem_singleton.mpr ⟨rfl, rfl⟩) reserves

theorem Following.turns_paths {options : ChildOptions} {plan : Plan} {failure : Failure}
    (following : Following library options plan done (.error failure)) :
    Resource.paths.Turns ∅ done ∅ := by
  rcases following.of_failed with ⟨ask, step, asking, opening⟩ | childStart
  · exact turns_of_idle (opening.calls asking).idle_paths
  · exact childStart.turns_paths

theorem Startup.turns_paths {options : Options} {mode : Mode} {args : List String}
    {failure : Failure} (startup : Startup options mode args done (.error failure)) :
    Resource.paths.Turns ∅ done ∅ := by
  cases startup with
  | refused _ unplanned => rfl
  | unloaded plan reason planned =>
    exact turns_of_idle (List.forall_mem_singleton.mpr ⟨rfl, rfl⟩)
  | failed plan library rest _ unload planned following =>
    have loads : Resource.paths.Turns ∅ ([⟨.load options.library, .ok library⟩] ++ rest) ∅ :=
      Turns.after_idle (List.forall_mem_singleton.mpr ⟨rfl, rfl⟩) following.turns_paths
    exact loads.then_idle (List.forall_mem_singleton.mpr ⟨rfl, rfl⟩)

/-! ### Sessions -/

theorem idle_paths_reached {ask : Except Native.Failure Native.Handle → Exchange}
    (asking : Asking library ask) (handle : Native.Handle) :
    ∀ exchange ∈ reached library ask handle, Resource.paths.Idle exchange := by
  have opening : Opening library ask .start (reached library ask handle) (.ok handle) :=
    .opened handle
  exact (opening.calls asking).idle_paths

theorem turns_paths_opening (options : Options) (session : Session) :
    Resource.paths.Turns ∅ (session.opening options) session.paths := by
  obtain ⟨library, connection⟩ := session
  cases connection with
  | embedded handle =>
    apply turns_of_idle
    unfold opening joining
    rw [List.forall_mem_cons]
    exact ⟨⟨rfl, rfl⟩, idle_paths_reached .start handle⟩
  | standalone link =>
    apply turns_of_idle
    unfold opening joining
    rw [List.forall_mem_cons]
    exact ⟨⟨rfl, rfl⟩, idle_paths_reached (.connect link.target) link.handle⟩
  | managedChild link child =>
    have found : ∀ exchange ∈ [⟨.load options.library, .ok library⟩,
        ⟨.find options.child.executable options.child.searchPath, .ok child.executable⟩],
        Resource.paths.Idle exchange := by
      rw [List.forall_mem_cons, List.forall_mem_singleton]
      exact ⟨⟨rfl, rfl⟩, rfl, rfl⟩
    have spawned : ∀ exchange ∈ ⟨.spawn child.executable [.ofString socketArgument,
        child.socketPath], .ok child.pid⟩ :: reached library (connectExchange library link.target)
          link.handle, Resource.paths.Idle exchange := by
      rw [List.forall_mem_cons]
      exact ⟨⟨rfl, rfl⟩, idle_paths_reached (.connect link.target) link.handle⟩
    have reserves := turns_reserve options.child.scratchDirectory options.child.socketStem
      child.socketPath
    exact Turns.after_idle found (reserves.then_idle spawned)

theorem idle_paths_dismissal (child : Child) (closing : Closing) :
    ∀ exchange ∈ dismissal child closing, Resource.paths.Idle exchange :=
  forall_mem_dismissal ⟨rfl, rfl⟩ ⟨rfl, rfl⟩ ⟨rfl, rfl⟩

theorem idle_paths_parting (session : Session) (closing : Closing) :
    ∀ exchange ∈ [session.closeExchange closing.close] ++
      (if closing.close.isOk then [.called session.library .shutdown closing.shutdown] else []),
      Resource.paths.Idle exchange := by
  rw [List.forall_mem_append, List.forall_mem_singleton]
  refine ⟨?_, forall_mem_ite ⟨rfl, rfl⟩⟩
  unfold closeExchange
  cases session.connection with
  | embedded handle => exact ⟨rfl, rfl⟩
  | standalone link => exact ⟨rfl, rfl⟩
  | managedChild link child => exact ⟨rfl, rfl⟩

theorem turns_paths_teardown (session : Session) (closing : Closing) :
    Resource.paths.Turns session.paths (session.teardown closing) ∅ := by
  have bereaves : Resource.paths.Turns session.paths (session.bereaving closing) ∅ := by
    unfold bereaving paths
    cases session.child? with
    | none => rfl
    | some child =>
      exact Turns.after_idle (idle_paths_dismissal child closing)
        (turns_remove child.socketPath closing.remove)
  have lowers := Turns.after_idle (idle_paths_parting session closing) bereaves
  exact lowers.then_idle (List.forall_mem_singleton.mpr ⟨rfl, rfl⟩)

theorem turns_paths_dropping (session : Session) (removed : Except Kernel.Fault Unit) :
    Resource.paths.Turns session.paths (session.dropping removed) ∅ := by
  unfold dropping paths
  cases session.child? with
  | none => exact turns_of_idle (List.forall_mem_singleton.mpr ⟨rfl, rfl⟩)
  | some child =>
    exact Turns.after_idle (List.forall_mem_singleton.mpr ⟨rfl, rfl⟩)
      (turns_remove child.socketPath removed)

end Session

namespace Fleet

open Resource Session

/-! ### Lives -/

theorem thrifty_paths : Thrifty Resource.paths Ending.paths := by
  intro options mode args done ending life
  cases life with
  | failed _ failure startup => exact startup.turns_paths
  | started _ session startup =>
    rw [startup.eq_opening.1]
    exact turns_paths_opening options session
  | closed opened session closing startup =>
    rw [startup.eq_opening.1]
    exact turns_append_iff.mpr
      ⟨_, turns_paths_opening options session, turns_paths_teardown session closing⟩
  | dropped opened session removed startup =>
    rw [startup.eq_opening.1]
    exact turns_append_iff.mpr
      ⟨_, turns_paths_opening options session, turns_paths_dropping session removed⟩

/-! ### The directory -/

/-- What a caller reserved and did not remove. -/
def reserved {σ : Type} (fleet : Fleet σ) (caller : Nat) : Finset Octets :=
  Resource.paths.held (fleet.deeds caller)

theorem after_of_entryAnswers {before after : Finset Octets} {exchange : Exchange}
    (answer : Host.EntryAnswers True before exchange after) :
    (∀ path, Resource.paths.gained? exchange = some path → path ∉ before) ∧
      after = Resource.paths.after before exchange := by
  obtain ⟨request, reply⟩ := exchange
  have unchanged (idle : Resource.paths.Idle ⟨request, reply⟩) (same : after = before) :
      (∀ path, Resource.paths.gained? ⟨request, reply⟩ = some path → path ∉ before) ∧
        after = Resource.paths.after before ⟨request, reply⟩ := by
    refine ⟨fun path gained => ?_, ?_⟩
    · cases idle.1.symm.trans gained
    · rw [after_of_idle idle, same]
  cases request with
  | reserve directory stem =>
    cases reply with
    | ok path =>
      obtain ⟨fresh, rfl⟩ := answer
      refine ⟨?_, (after_of_gained (k := path) rfl rfl).symm⟩
      rintro other ⟨⟩
      exact fresh
    | error fault => exact unchanged ⟨rfl, rfl⟩ answer
  | remove path =>
    refine ⟨?_, ?_⟩
    · rintro other ⟨⟩
    · rw [after_of_lost (k := path) rfl rfl]
      cases reply with
      | ok u => exact answer.2
      | error fault => rw [answer.2, Finset.erase_eq_of_notMem (answer.1 trivial)]
  | _ => exact unchanged ⟨rfl, rfl⟩ answer

/-- The account of a directory: what was there at first is nobody's. -/
def directoryAccounts (initial : Finset Octets) :
    Accounts (Host.files True) Resource.paths where
  all := id
  others _ := initial
  sound _ := True
  answers answer _ _ :=
    ⟨trivial, (after_of_entryAnswers answer).1, (after_of_entryAnswers answer).2, rfl⟩
  drifts drift := drift.elim

/-- What is in a scratch directory while a fleet is at work in it. -/
structure ScratchKept (initial : Finset Octets) (fleet : Fleet (Finset Octets)) : Prop where
  /-- Nothing that was there at first is gone. -/
  initial_subset : initial ⊆ fleet.world
  /-- Besides that, there is what callers reserved and did not remove. -/
  mem_iff : ∀ path, path ∈ fleet.world ↔ path ∈ initial ∨ ∃ caller, path ∈ fleet.reserved caller
  /-- No caller reserved what was there at first. -/
  apart : ∀ caller, ∀ path ∈ fleet.reserved caller, path ∉ initial
  /-- No two callers reserved the same. -/
  single : ∀ first second, ∀ path ∈ fleet.reserved first, path ∈ fleet.reserved second →
    first = second
  /-- A running session has reserved the path of its child's socket, and nothing else; nothing is
  left of one that failed to start, was shut down or dropped. -/
  ended : ∀ caller ending, fleet.lives[caller]? = some (.done ending) →
    fleet.reserved caller = ending.paths
  /-- If nobody is in the midst of something, there is a path for each running session. -/
  rest : fleet.AtRest → ∀ path, path ∈ fleet.world ↔ path ∈ initial ∨
    ∃ caller session, fleet.Running caller session ∧ path ∈ session.paths

theorem exists_reserved_iff {σ : Type} {fleet : Fleet σ} (sound : fleet.Sound)
    (atRest : fleet.AtRest) (path : Octets) :
    (∃ caller, path ∈ fleet.reserved caller) ↔
      ∃ caller session, fleet.Running caller session ∧ path ∈ session.paths := by
  constructor
  · rintro ⟨caller, holds⟩
    cases born : fleet.lives[caller]? with
    | none =>
      rw [reserved, sound.deeds_of_unborn (List.getElem?_eq_none_iff.mp born)] at holds
      cases holds
    | some todo =>
      obtain ⟨ending, rfl⟩ := atRest todo (List.mem_of_getElem? born)
      rw [reserved, thrifty_paths.held_of_ended sound born] at holds
      cases ending with
      | started session => exact ⟨caller, session, born, holds⟩
      | _ => cases holds
  · rintro ⟨caller, session, running, holds⟩
    refine ⟨caller, ?_⟩
    rw [reserved, thrifty_paths.held_of_ended sound running]
    exact holds

/-- However a fleet goes about in a directory that is used by nobody else and gives up what is to be
removed, the directory is kept. -/
theorem scratch_directory_kept {initial : Finset Octets} {fleet : Fleet (Finset Octets)}
    (reachable : Reachable (Host.files True) initial fleet) : ScratchKept initial fleet := by
  have sound := reachable.sound
  have stocked := Reachable.stocked (directoryAccounts initial) thrifty_paths trivial rfl reachable
  refine ⟨stocked.others_subset, stocked.mem_all_iff, ?_, stocked.single, ?_, ?_⟩
  · intro caller path holds
    exact stocked.apart holds
  · intro caller ending ended
    exact thrifty_paths.held_of_ended sound ended
  · intro atRest path
    rw [← exists_reserved_iff sound atRest]
    exact stocked.mem_all_iff path

theorem quiet_files (obliging : Prop) : (Host.files obliging).Quiet := by
  rintro caller before ⟨request, reply⟩ after silent
  cases request with
  | log event => exact Iff.rfl
  | _ => cases silent

/-- A session with a child is started where one entry is already. -/
theorem scratch_directory_kept_of_child :
    let session : Session :=
      ⟨⟨0, Native.defaultLibrary⟩, .managedChild ⟨⟨7⟩, ⟨[46], 1, rfl⟩⟩ ⟨42, [47], [46]⟩⟩
    ∃ fleet, Reachable (Host.files True) {[1]} fleet ∧ fleet.Running 0 session ∧
      fleet.world = {[46], [1]} ∧ ScratchKept {[1]} fleet := by
  intro session
  have linking : Linking session.library ⟨42, [47], [46]⟩ _ (.ok ⟨⟨7⟩, ⟨[46], 1, rfl⟩⟩) :=
    .tried ⟨[46], 1, rfl⟩ _ (.ok ⟨7⟩) rfl (.opened ⟨7⟩)
  have startup : Startup .default .managedChild [] (session.opening .default) (.ok session) :=
    .started .managedChild session.library _ session.connection rfl
      (.managedChild _ _ (.launched [47] [46] _ _ rfl (.linked 42 _ _ linking)))
  have starts : (Ending.ofStart <$> Session.start .default .managedChild []).Performs _ _ :=
    Procedure.performs_map_iff.mpr ⟨.ok session, performs_start_iff.mpr startup, rfl⟩
  let todo : Procedure Ending := Ending.ofStart <$> Session.start .default .managedChild []
  let born : Fleet (Finset Octets) := ⟨{[1]}, [todo], []⟩
  have begins : Reachable (Host.files True) {[1]} born := .single (.start ⟨{[1]}, [], []⟩ _ _ _)
  have bornTodo : born.lives[0]? = some todo := rfl
  have along : (Host.files True).Along 0 born.world (session.opening .default) {[46], [1]} := by
    refine ⟨_, {[1]}, .refl, rfl, ?_⟩
    refine ⟨_, {[1]}, .refl, rfl, ?_⟩
    refine ⟨_, {[46], [1]}, .refl, ⟨by decide, rfl⟩, ?_⟩
    refine ⟨_, {[46], [1]}, .refl, rfl, ?_⟩
    refine ⟨_, {[46], [1]}, .refl, rfl, ?_⟩
    refine ⟨_, {[46], [1]}, .refl, rfl, ?_⟩
    exact .refl
  obtain ⟨trace, -, toRunning⟩ := exists_run (quiet_files True) bornTodo starts along
  have reachable := begins.trans toRunning
  exact ⟨_, reachable, rfl, rfl, scratch_directory_kept reachable⟩

end Fleet

end HostEngine
