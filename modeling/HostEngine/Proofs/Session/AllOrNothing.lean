import HostEngine.Proofs.Host
import HostEngine.Proofs.Session.Startup
/-!
# A start does all or nothing

A start that fails leaves the host as it was: no library more is loaded, no child of it is left, not
even one that ended, and no file name is left or lost. What it asked of the library is settled.
-/
set_option autoImplicit false

namespace HostEngine.Session

open Procedure Surroundings

variable {library : Native.Library} {done : List Exchange}

/-! ### Libraries -/

variable {obliging : Prop} {caller : Nat}

theorem live_of_joinRequest {before after : Finset Native.Library}
    (asked : ∀ exchange ∈ done, JoinRequest library exchange.request)
    (along : Host.libraries.Along caller before done after) : after = before := by
  refine along.preserves (P := (· = before)) ?_ ?_ rfl
  · intro a b drift
    cases drift
  · rintro ⟨request, reply⟩ member a b answer rfl
    have join := asked _ member
    cases request with
    | call called call => exact answer
    | find name searchPath => exact answer
    | reserve directory stem => exact answer
    | spawn program arguments => exact answer
    | signal pid sent => exact answer
    | wait pid => exact answer
    | remove path => exact answer
    | _ => cases join

theorem live_of_failed {options : Options} {mode : Mode} {args : List String} {failure : Failure}
    {before after : Finset Native.Library}
    (startup : Startup options mode args done (.error failure))
    (along : Host.libraries.Along caller before done after) : after = before := by
  cases startup with
  | refused _ unplanned => exact Host.steady_libraries.along_nil_iff.mp along
  | unloaded plan reason planned =>
    obtain ⟨live, rfl, ends⟩ := Host.steady_libraries.along_cons_iff.mp along
    exact Host.steady_libraries.along_nil_iff.mp ends
  | failed plan library rest _ unload planned following =>
    obtain ⟨live, first, last⟩ := along_append_iff.mp along
    obtain ⟨loaded, ⟨fresh, rfl⟩, joins⟩ := Host.steady_libraries.along_cons_iff.mp first
    obtain rfl := live_of_joinRequest following.joinRequest joins
    obtain ⟨closed, rfl, ends⟩ := Host.steady_libraries.along_cons_iff.mp last
    rw [Host.steady_libraries.along_nil_iff.mp ends]
    exact Finset.erase_insert fresh

/-! ### File names -/

theorem entries_of_calls {before after : Finset Octets} (calls : Calls library done)
    (along : (Host.files obliging).Along caller before done after) : after = before := by
  refine along.preserves (P := (· = before)) ?_ ?_ rfl
  · intro a b drift
    cases drift
  · intro exchange member a b answer same
    obtain ⟨call, reply, rfl⟩ := calls exchange member
    exact answer.trans same

theorem entries_of_killing {pid : UInt32} {kill : Except Kernel.Errno Unit}
    {reap : Except Kernel.Fault Kernel.Exit} {before after : Finset Octets}
    (along : (Host.files obliging).Along caller before (killing pid kill reap) after) :
    after = before := by
  obtain ⟨between, rfl, rest⟩ := Host.steady_files.along_cons_iff.mp along
  cases kill with
  | error errno => exact Host.steady_files.along_nil_iff.mp rest
  | ok u =>
    obtain ⟨waited, rfl, ends⟩ := Host.steady_files.along_cons_iff.mp rest
    exact Host.steady_files.along_nil_iff.mp ends

/-- Where files are given up when asked, a name that was reserved is gone after its removal. -/
theorem entries_of_remove {path : Octets} {remove : Except Kernel.Fault Unit}
    {before after : Finset Octets} (oblige : obliging) (fresh : path ∉ before)
    (along : (Host.files obliging).Along caller (insert path before) [⟨.remove path, remove⟩] after) :
    after = before := by
  obtain ⟨left, answer, ends⟩ := Host.steady_files.along_cons_iff.mp along
  rw [Host.steady_files.along_nil_iff.mp ends]
  cases remove with
  | error fault => exact absurd (Finset.mem_insert_self path before) (answer.1 oblige)
  | ok u =>
    rw [answer.2]
    exact Finset.erase_insert fresh

theorem entries_of_launching {executable path : Octets} {failure : Failure}
    {before after : Finset Octets} (oblige : obliging) (fresh : path ∉ before)
    (launching : Launching library executable path done (.error failure))
    (along : (Host.files obliging).Along caller (insert path before) done after) :
    after = before := by
  cases launching with
  | unspawned fault remove =>
    obtain ⟨_, rfl, removing⟩ := Host.steady_files.along_cons_iff.mp along
    exact entries_of_remove oblige fresh removing
  | aborted pid rest _ kill reap remove linking =>
    obtain ⟨_, rfl, linked⟩ := Host.steady_files.along_cons_iff.mp along
    obtain ⟨_, links, aborts⟩ := along_append_iff.mp linked
    obtain rfl := entries_of_calls linking.calls links
    obtain ⟨_, kills, removing⟩ := along_append_iff.mp aborts
    obtain rfl := entries_of_killing kills
    exact entries_of_remove oblige fresh removing

theorem entries_of_following {options : ChildOptions} {plan : Plan} {failure : Failure}
    {before after : Finset Octets} (oblige : obliging)
    (following : Following library options plan done (.error failure))
    (along : (Host.files obliging).Along caller before done after) : after = before := by
  rcases following.of_failed with ⟨ask, step, asking, opening⟩ | childStart
  · exact entries_of_calls (opening.calls asking) along
  · cases childStart with
    | unnamed empty => exact Host.steady_files.along_nil_iff.mp along
    | unfound reason named =>
      obtain ⟨_, rfl, ends⟩ := Host.steady_files.along_cons_iff.mp along
      exact Host.steady_files.along_nil_iff.mp ends
    | unreserved executable fault named =>
      obtain ⟨_, rfl, reserves⟩ := Host.steady_files.along_cons_iff.mp along
      obtain ⟨_, rfl, ends⟩ := Host.steady_files.along_cons_iff.mp reserves
      exact Host.steady_files.along_nil_iff.mp ends
    | launched executable path rest _ named launching =>
      obtain ⟨_, rfl, reserves⟩ := Host.steady_files.along_cons_iff.mp along
      obtain ⟨_, ⟨fresh, rfl⟩, launches⟩ := Host.steady_files.along_cons_iff.mp reserves
      exact entries_of_launching oblige fresh launching launches

theorem entries_of_failed {options : Options} {mode : Mode} {args : List String}
    {failure : Failure} {before after : Finset Octets} (oblige : obliging)
    (startup : Startup options mode args done (.error failure))
    (along : (Host.files obliging).Along caller before done after) : after = before := by
  cases startup with
  | refused _ unplanned => exact Host.steady_files.along_nil_iff.mp along
  | unloaded plan reason planned =>
    obtain ⟨_, rfl, ends⟩ := Host.steady_files.along_cons_iff.mp along
    exact Host.steady_files.along_nil_iff.mp ends
  | failed plan library rest _ unload planned following =>
    obtain ⟨_, first, last⟩ := along_append_iff.mp along
    obtain ⟨_, rfl, joins⟩ := Host.steady_files.along_cons_iff.mp first
    obtain rfl := entries_of_following oblige following joins
    obtain ⟨_, rfl, ends⟩ := Host.steady_files.along_cons_iff.mp last
    exact Host.steady_files.along_nil_iff.mp ends

/-! ### Children -/

variable {before after : Crowd} {owner pid : Nat}

def Spares (done : List Exchange) : Prop :=
  ∀ exchange ∈ done, exchange.spawned? = none ∧ exchange.reaped? = none

theorem Calls.spares (calls : Calls library done) : Spares done := by
  intro exchange member
  obtain ⟨call, reply, rfl⟩ := calls exchange member
  exact ⟨rfl, rfl⟩

/-- A child that the crowd lets be killed and waited for is gone after that: it does not leave by
itself, so the signal finds it, and so does the wait. -/
theorem owns_of_killing {child : UInt32} {kill : Except Kernel.Errno Unit}
    {reap : Except Kernel.Fault Kernel.Exit} (oblige : obliging) (sound : before.Sound)
    (owns : before.Owns caller child.toNat)
    (along : (Crowd.surroundings obliging).Along caller before (killing child kill reap) after) :
    after.Owns owner pid ↔ before.Owns owner pid ∧ pid ≠ child.toNat := by
  obtain ⟨asked, signalled, soundAsked, same, answer, rest⟩ :=
    Crowd.exists_of_along_cons sound along
  cases kill with
  | error errno =>
    have reaches : asked.ReachesOwn caller (Program.kernelPid child) :=
      Crowd.reachesOwn_of_owns soundAsked ((same _ _).mpr owns)
    exact absurd reaches (answer.1 oblige)
  | ok u =>
    have kept (owner pid : Nat) : signalled.Owns owner pid ↔ before.Owns owner pid := by
      rw [answer.owns_iff, same]
      simp
    obtain ⟨waiting, waited, _, same', answer', ends⟩ :=
      Crowd.exists_of_along_cons (answer.sound soundAsked) rest
    have stays : after.Owns owner pid ↔ waited.Owns owner pid :=
      Crowd.along_owns_iff ends (List.forall_mem_nil _)
    cases reap with
    | error fault =>
      have waits : waiting.Owns caller child.toNat := (same' _ _).mpr ((kept _ _).mpr owns)
      exact absurd waits (answer'.1 oblige)
    | ok exit =>
      rw [stays, answer'.owns_iff, same', kept]
      simp

theorem owns_of_launching {executable path : Octets} {failure : Failure} (oblige : obliging)
    (sound : before.Sound)
    (launching : Launching library executable path done (.error failure))
    (along : (Crowd.surroundings obliging).Along caller before done after) :
    after.Owns owner pid ↔ before.Owns owner pid := by
  cases launching with
  | unspawned fault remove =>
    apply Crowd.along_owns_iff along
    simp
  | aborted child rest _ kill reap remove linking =>
    obtain ⟨asked, spawned, soundAsked, same, answer, linked⟩ :=
      Crowd.exists_of_along_cons sound along
    obtain ⟨joined, links, aborts⟩ := along_append_iff.mp linked
    obtain ⟨killed, kills, removing⟩ := along_append_iff.mp aborts
    have grown (owner pid : Nat) : joined.Owns owner pid ↔
        before.Owns owner pid ∨ pid = child.toNat ∧ owner = caller := by
      rw [Crowd.along_owns_iff links linking.calls.spares, answer.owns_iff, same]
      simp
    have soundJoined : joined.Sound := Crowd.along_sound links (answer.sound soundAsked)
    have born : joined.Owns caller child.toNat := (grown _ _).mpr (.inr ⟨rfl, rfl⟩)
    -- Nobody owned the number before, since it was not in the table.
    have unowned : ¬ before.Owns owner child.toNat := by
      intro owned
      exact (answer.of_spawned rfl).1 ((same _ _).mpr owned).1
    have stays : after.Owns owner pid ↔ killed.Owns owner pid :=
      Crowd.along_owns_iff removing (List.forall_mem_singleton.mpr ⟨rfl, rfl⟩)
    rw [stays, owns_of_killing oblige soundJoined born kills, grown]
    constructor
    · rintro ⟨owned | ⟨rfl, -⟩, differs⟩
      · exact owned
      · exact absurd rfl differs
    · intro owned
      refine ⟨.inl owned, ?_⟩
      rintro rfl
      exact unowned owned

theorem owns_of_following {options : ChildOptions} {plan : Plan} {failure : Failure}
    (oblige : obliging) (sound : before.Sound)
    (following : Following library options plan done (.error failure))
    (along : (Crowd.surroundings obliging).Along caller before done after) :
    after.Owns owner pid ↔ before.Owns owner pid := by
  rcases following.of_failed with ⟨ask, step, asking, opening⟩ | childStart
  · exact Crowd.along_owns_iff along (opening.calls asking).spares
  · cases childStart with
    | unnamed empty => exact Crowd.along_owns_iff along (List.forall_mem_nil _)
    | unfound reason named =>
      apply Crowd.along_owns_iff along
      simp
    | unreserved executable fault named =>
      apply Crowd.along_owns_iff along
      simp
    | launched executable path rest _ named launching =>
      have split : (Crowd.surroundings obliging).Along caller before
          ([⟨.find options.executable options.searchPath, .ok executable⟩,
            ⟨.reserve options.scratchDirectory options.socketStem, .ok path⟩] ++ rest) after :=
        along
      obtain ⟨reserved, reserves, launches⟩ := along_append_iff.mp split
      have same : reserved.Owns owner pid ↔ before.Owns owner pid := by
        apply Crowd.along_owns_iff reserves
        simp
      rw [owns_of_launching oblige (Crowd.along_sound reserves sound) launching launches, same]

theorem owns_of_failed {options : Options} {mode : Mode} {args : List String} {failure : Failure}
    (oblige : obliging) (sound : before.Sound)
    (startup : Startup options mode args done (.error failure))
    (along : (Crowd.surroundings obliging).Along caller before done after) :
    after.Owns owner pid ↔ before.Owns owner pid := by
  cases startup with
  | refused _ unplanned => exact Crowd.along_owns_iff along (List.forall_mem_nil _)
  | unloaded plan reason planned =>
    exact Crowd.along_owns_iff along (List.forall_mem_singleton.mpr ⟨rfl, rfl⟩)
  | failed plan library rest _ unload planned following =>
    obtain ⟨joined, first, last⟩ := along_append_iff.mp along
    obtain ⟨asked, loaded, soundAsked, same, answer, joins⟩ :=
      Crowd.exists_of_along_cons sound first
    have kept : loaded.Owns owner pid ↔ before.Owns owner pid := by
      rw [answer.owns_iff, same]
      simp
    have stays : after.Owns owner pid ↔ joined.Owns owner pid :=
      Crowd.along_owns_iff last (List.forall_mem_singleton.mpr ⟨rfl, rfl⟩)
    rw [stays, owns_of_following oblige (answer.sound soundAsked) following joins, kept]

/-! ### What was asked of the library -/

/-- Whether a library was asked to shut down, with or without success. -/
def isShutdown : Exchange → Bool
  | ⟨.call _ .shutdown, _⟩ => true
  | _ => false

/-- One shutdown was asked for if the library was initialized, and none otherwise. -/
def Balanced (done : List Exchange) : Prop :=
  done.countP isShutdown = done.countP Exchange.isInitialized ∧ done.countP Exchange.isInitialized ≤ 1

def Neutral (done : List Exchange) : Prop :=
  done.countP isShutdown = 0 ∧ done.countP Exchange.isInitialized = 0

theorem Balanced.append {first second : List Exchange} (balanced : Balanced first)
    (neutral : Neutral second) : Balanced (first ++ second) := by
  unfold Balanced
  rw [List.countP_append, List.countP_append, neutral.1, neutral.2]
  exact balanced

theorem Balanced.prepend (first : List Exchange) {second : List Exchange}
    (neutral : Neutral first) (balanced : Balanced second) : Balanced (first ++ second) := by
  unfold Balanced
  rw [List.countP_append, List.countP_append, neutral.1, neutral.2, Nat.zero_add, Nat.zero_add]
  exact balanced

theorem neutral_killing (pid : UInt32) (kill : Except Kernel.Errno Unit)
    (reap : Except Kernel.Fault Kernel.Exit) : Neutral (killing pid kill reap) := by
  cases kill with
  | ok u => exact ⟨rfl, rfl⟩
  | error errno => exact ⟨rfl, rfl⟩

theorem Opening.balanced {ask : Except Native.Failure Native.Handle → Exchange} {step : NativeStep}
    {failure : Failure} (asking : Asking library ask)
    (opening : Opening library ask step done (.error failure)) : Balanced done := by
  cases opening with
  | uninitialized native => exact ⟨rfl, Nat.zero_le _⟩
  | unopened native shutdown =>
    cases asking with
    | start => exact ⟨rfl, Nat.le_refl 1⟩
    | connect target => exact ⟨rfl, Nat.le_refl 1⟩

theorem Linking.balanced {child : Child} {failure : Failure}
    (linking : Linking library child done (.error failure)) : Balanced done := by
  rcases linking.of_failed with rfl | ⟨target, opening⟩
  · exact ⟨rfl, Nat.zero_le _⟩
  · exact opening.balanced (.connect target)

theorem Launching.balanced {executable path : Octets} {failure : Failure}
    (launching : Launching library executable path done (.error failure)) : Balanced done := by
  cases launching with
  | unspawned fault remove => exact ⟨rfl, Nat.zero_le _⟩
  | aborted pid rest _ kill reap remove linking =>
    have aborts : Neutral (killing pid kill reap ++ [⟨.remove path, remove⟩]) := by
      unfold Neutral
      rw [List.countP_append, List.countP_append, (neutral_killing pid kill reap).1,
        (neutral_killing pid kill reap).2]
      exact ⟨rfl, rfl⟩
    exact Balanced.prepend [_] ⟨rfl, rfl⟩ (linking.balanced.append aborts)

theorem Following.balanced {options : ChildOptions} {plan : Plan} {failure : Failure}
    (following : Following library options plan done (.error failure)) : Balanced done := by
  rcases following.of_failed with ⟨ask, step, asking, opening⟩ | childStart
  · exact opening.balanced asking
  · cases childStart with
    | unnamed empty => exact ⟨rfl, Nat.zero_le _⟩
    | unfound reason named => exact ⟨rfl, Nat.zero_le _⟩
    | unreserved executable fault named => exact ⟨rfl, Nat.zero_le _⟩
    | launched executable path rest _ named launching =>
      exact Balanced.prepend [_, _] ⟨rfl, rfl⟩ launching.balanced

/-- What was asked of libraries is settled. -/
structure Settled (done : List Exchange) : Prop where
  /-- If no library was loaded, none was called or let go of. -/
  unused : (∀ exchange ∈ done, exchange.loaded? = none) → ∀ exchange ∈ done, exchange.used? = none
  /-- If one was loaded, only this one was called, and closing it was the last that was done to
  it. -/
  closed : ∀ exchange ∈ done, ∀ library, exchange.loaded? = some library →
    ∃ calls unload, done.filter (·.used?.isSome) = calls ++ [⟨.unload library, unload⟩] ∧
      Calls library calls
  balanced : Balanced done
  unrun : ∀ exchange ∈ done, ∀ program arguments, exchange.request ≠ .runToEnd program arguments

theorem calls_of_joinRequest
    (asked : ∀ exchange ∈ done, JoinRequest library exchange.request) :
    Calls library (done.filter (·.used?.isSome)) := by
  rintro ⟨request, reply⟩ among
  obtain ⟨member, used⟩ := List.mem_filter.mp among
  have join := asked _ member
  cases request with
  | call called call =>
    obtain rfl : called = library := join
    exact ⟨call, reply, rfl⟩
  | find name searchPath => cases used
  | reserve directory stem => cases used
  | spawn program arguments => cases used
  | signal pid sent => cases used
  | wait pid => cases used
  | remove path => cases used
  | _ => cases join

theorem settled_of_failed {options : Options} {mode : Mode} {args : List String}
    {failure : Failure} (startup : Startup options mode args done (.error failure)) :
    Settled done := by
  cases startup with
  | refused _ unplanned =>
    exact ⟨fun _ => List.forall_mem_nil _, List.forall_mem_nil _, ⟨rfl, Nat.zero_le _⟩,
      List.forall_mem_nil _⟩
  | unloaded plan reason planned =>
    refine ⟨fun _ => List.forall_mem_singleton.mpr rfl, ?_, ⟨rfl, Nat.zero_le _⟩, ?_⟩
    · rw [List.forall_mem_singleton]
      rintro library ⟨⟩
    · rw [List.forall_mem_singleton]
      rintro program arguments ⟨⟩
  | failed plan library rest _ unload planned following =>
    have asked := following.joinRequest
    constructor
    · intro none
      cases none _ List.mem_cons_self
    · intro exchange member other loaded
      have only : other = library := by
        simp only [List.cons_append, List.mem_cons, List.mem_append, List.not_mem_nil,
          or_false] at member
        rcases member with rfl | member | rfl
        · cases loaded
          rfl
        · cases (asked exchange member).loaded?.symm.trans loaded
        · cases loaded
      subst only
      refine ⟨rest.filter (·.used?.isSome), unload, ?_, calls_of_joinRequest asked⟩
      rw [List.cons_append, List.filter_cons_of_neg (by simp [Exchange.used?]),
        List.filter_append]
      rfl
    · have ends : Balanced (rest ++ [⟨.unload library, unload⟩]) :=
        following.balanced.append ⟨rfl, rfl⟩
      exact Balanced.prepend [_] ⟨rfl, rfl⟩ ends
    · intro exchange member program arguments run
      simp only [List.cons_append, List.mem_cons, List.mem_append, List.not_mem_nil,
        or_false] at member
      rcases member with rfl | member | rfl
      · cases run
      · have join := asked exchange member
        rw [run] at join
        cases join
      · cases run

theorem eq_nil_of_unplanned {options : Options} {mode : Mode} {args : List String}
    {failure refusal : Failure} (unplanned : Plan.make mode args = .error refusal)
    (startup : Startup options mode args done (.error failure)) :
    done = [] ∧ failure = refusal := by
  cases startup with
  | refused _ refused => exact ⟨rfl, Except.error.inj (refused.symm.trans unplanned)⟩
  | unloaded plan reason planned => cases planned.symm.trans unplanned
  | failed plan library rest _ unload planned following => cases planned.symm.trans unplanned

/-! ### The whole -/

/-- In a host that lets a caller kill, wait for and clean up after its own child, a start that fails
leaves the loaded libraries, everybody's children and the file names as they were, and what it asked
of libraries is settled. Arguments that are refused keep it from asking for anything, even for the
library. Other processes may come, end and go meanwhile, and so may the child end by itself. -/
theorem start_all_or_nothing {options : Options} {mode : Mode} {args : List String}
    {trace : List Exchange} {failure : Failure} {caller : Nat} {before after : Host}
    (failed : Yields (start options mode args) trace (.error failure))
    (sound : before.crowd.Sound)
    (along : (Host.surroundings True).Along caller before trace after) :
    after.live = before.live ∧
    (∀ owner pid, after.crowd.Owns owner pid ↔ before.crowd.Owns owner pid) ∧
    after.entries = before.entries ∧
    Settled (effects trace) ∧
    ∀ refusal, Plan.make mode args = .error refusal → effects trace = [] ∧ failure = refusal := by
  have startup := performs_start_iff.mp failed.performs
  have visible := (Host.quiet_surroundings True).along_effects_iff.mpr along
  refine ⟨live_of_failed startup (Host.along_libraries visible), fun owner pid => ?_,
    entries_of_failed trivial startup (Host.along_files visible), settled_of_failed startup,
    fun refusal unplanned => eq_nil_of_unplanned unplanned startup⟩
  exact owns_of_failed trivial sound startup (Host.along_crowd visible)

/-- The engine was started as a child but refused the connection: the child is killed and waited for,
and its path and the library are given up. Without an address to connect to, nothing is asked for. -/
theorem start_all_or_nothing_of_child :
    let before : Host := ⟨∅, ∅, ⟨.fresh 2 3, fun _ => none⟩⟩
    let refusal : Native.Failure := ⟨-1, "refused"⟩
    let unaddressed : Failure := .arguments "missing address/port"
    (∃ trace after,
      Yields (start .default .managedChild []) trace (.error (.native .connect refusal)) ∧
      (Host.surroundings True).Along 0 before trace after ∧
      after.live = before.live ∧
      (∀ owner pid, after.crowd.Owns owner pid ↔ before.crowd.Owns owner pid) ∧
      after.entries = before.entries ∧
      Settled (effects trace)) ∧
    ∃ trace,
      Yields (start .default .standalone []) trace (.error unaddressed) ∧
      (Host.surroundings True).Along 0 before trace before ∧
      effects trace = [] := by
  intro before refusal unaddressed
  let library : Native.Library := ⟨0, Native.defaultLibrary⟩
  have linking : Linking library ⟨42, [47], [46]⟩ _ (.error (.native .connect refusal)) :=
    .tried ⟨[46], 1, rfl⟩ _ (.error (.native .connect refusal)) rfl (.unopened refusal (.ok ()))
  have startup : Startup .default .managedChild [] _ (.error (.native .connect refusal)) :=
    .failed .managedChild library _ _ (.ok ()) rfl (.managedChild _ _
      (.launched [47] [46] _ _ rfl
        (.aborted 42 _ _ (.ok ()) (.ok (.signal .kill)) (.ok ()) linking)))
  obtain ⟨trace, failed, visible⟩ := performs_start_iff.mpr startup
  have sound : before.crowd.Sound := by
    refine ⟨by decide, ?_⟩
    rintro caller pid ⟨-, ⟨⟩⟩
  let joined : Crowd := before.crowd.joined ⟨42, 42, .running (.code 0)⟩ (some 0)
  obtain ⟨struck, delivered⟩ : ∃ processes,
    joined.processes.signal (Program.kernelPid 42) (some .kill) = .ok processes := ⟨_, rfl⟩
  have owns : (⟨struck, joined.keeper⟩ : Crowd).Owns 0 42 := by
    cases delivered
    exact ⟨by decide, rfl⟩
  have waited : struck.wait 42 = .ok (.signal .kill, struck.release 42) := by
    cases delivered
    rfl
  let loaded : Host := ⟨insert library ∅, ∅, before.crowd⟩
  let reserved : Host := ⟨insert library ∅, insert [46] ∅, before.crowd⟩
  let spawned : Host := ⟨insert library ∅, insert [46] ∅, joined⟩
  let killed : Host := ⟨insert library ∅, insert [46] ∅, ⟨struck, joined.keeper⟩⟩
  let reaped : Host := ⟨insert library ∅, insert [46] ∅, ⟨struck.release 42, joined.keeper⟩⟩
  let removed : Host := { reaped with entries := reaped.entries.erase [46] }
  let after : Host := { removed with live := removed.live.erase library }
  have along : (Host.surroundings True).Along 0 before (effects trace) after := by
    rw [visible]
    refine ⟨_, loaded, .refl, ⟨⟨Finset.notMem_empty _, rfl⟩, rfl, rfl⟩, ?_⟩
    refine ⟨_, loaded, .refl, ⟨rfl, rfl, rfl⟩, ?_⟩
    refine ⟨_, reserved, .refl, ⟨rfl, ⟨Finset.notMem_empty _, rfl⟩, rfl⟩, ?_⟩
    refine ⟨_, spawned, .refl, ⟨rfl, rfl, by decide, by decide, by decide, .code 0, rfl⟩, ?_⟩
    refine ⟨_, spawned, .refl, ⟨rfl, rfl, rfl⟩, ?_⟩
    refine ⟨_, spawned, .refl, ⟨rfl, rfl, rfl⟩, ?_⟩
    refine ⟨_, spawned, .refl, ⟨rfl, rfl, rfl⟩, ?_⟩
    refine ⟨_, killed, .refl, ⟨rfl, rfl, struck, delivered, rfl⟩, ?_⟩
    refine ⟨_, reaped, .refl, ⟨rfl, rfl, ⟨0, owns⟩, struck.release 42, waited, rfl⟩, ?_⟩
    refine ⟨_, removed, .refl, ⟨rfl, ⟨Finset.mem_insert_self _ _, rfl⟩, rfl⟩, ?_⟩
    refine ⟨_, after, .refl, ⟨rfl, rfl, rfl⟩, ?_⟩
    exact .refl
  have travelled := (Host.quiet_surroundings True).along_effects_iff.mp along
  obtain ⟨live, owned, entries, settled, -⟩ := start_all_or_nothing failed sound travelled
  refine ⟨⟨trace, after, failed, travelled, live, owned, entries, settled⟩, ?_⟩
  have startless : Startup .default .standalone [] [] (.error unaddressed) :=
    .refused unaddressed rfl
  obtain ⟨idle, refused, nothing⟩ := performs_start_iff.mpr startless
  have stayed : (Host.surroundings True).Along 0 before idle before := by
    rw [← (Host.quiet_surroundings True).along_effects_iff, nothing]
    exact .refl
  obtain ⟨-, -, -, -, unasked⟩ := start_all_or_nothing refused sound stayed
  exact ⟨idle, refused, stayed, (unasked unaddressed rfl).1⟩

end HostEngine.Session
