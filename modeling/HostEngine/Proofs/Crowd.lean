import HostEngine.Machine.Processes
import HostEngine.Program.Execution
import HostEngine.Proofs.Surroundings
/-!
# Processes that come and go

A crowd is the table of processes, with the caller that started each of the children among them. It
drifts: at any time strangers come, any process may end, and a stranger that ended may go. A child
stays in the table until it is waited for. No process comes with a number that is in the table.
-/
set_option autoImplicit false

namespace HostEngine

/-- The processes of a machine, and for each child the caller that started it. -/
structure Crowd where
  processes : Machine.Processes
  keeper : Nat → Option Nat

namespace Crowd

def pids (crowd : Crowd) : List Nat := crowd.processes.table.map Machine.Process.pid

/-- The process is in the table, running or ended, and the caller started it. -/
def Owns (crowd : Crowd) (caller pid : Nat) : Prop :=
  pid ∈ crowd.pids ∧ crowd.keeper pid = some caller

def addressees (crowd : Crowd) (number : Int32) : List Machine.Process :=
  crowd.processes.table.filter (crowd.processes.addresses number)

/-- A signal with this number goes to one process, a child of the caller. -/
def ReachesOwn (crowd : Crowd) (caller : Nat) (number : Int32) : Prop :=
  ∃ process, crowd.addressees number = [process] ∧ crowd.keeper process.pid = some caller

def joined (crowd : Crowd) (process : Machine.Process) (keeper : Option Nat) : Crowd where
  processes := { crowd.processes with table := crowd.processes.table ++ [process] }
  keeper pid := if pid = process.pid then keeper else crowd.keeper pid

def left (crowd : Crowd) (pid : Nat) : Crowd :=
  { crowd with processes := crowd.processes.release pid }

/-- What happens among processes while nothing is asked of them. -/
inductive Drift : Crowd → Crowd → Prop
  | coming (crowd : Crowd) (stranger : Machine.Process) (unused : stranger.pid ∉ crowd.pids) :
    Drift crowd (crowd.joined stranger none)
  | ending (crowd : Crowd) (pid : Nat) :
    Drift crowd { crowd with processes := crowd.processes.finish pid }
  | going (crowd : Crowd) (pid : Nat) (stranger : crowd.keeper pid = none) :
    Drift crowd (crowd.left pid)

/-- The kernel hands out numbers below this one. -/
def pidLimit : Nat := 2147483648

/-- How a crowd answers. A new child leads a group of its own. A signal has the effect that the
number says, a wait lets the child go. An obliging crowd refuses neither a signal to a child of the
caller nor a wait for one. -/
def Answers (obliging : Prop) (caller : Nat) (crowd : Crowd) : Exchange → Crowd → Prop
  | ⟨.spawn _ _, .ok pid⟩, next =>
    pid.toNat ∉ crowd.pids ∧ 0 < pid.toNat ∧ pid.toNat < pidLimit ∧
      ∃ atLast, next = crowd.joined ⟨pid.toNat, pid.toNat, .running atLast⟩ (some caller)
  | ⟨.signal number sent, .ok _⟩, next =>
    ∃ processes, crowd.processes.signal number sent = .ok processes ∧
      next = { crowd with processes }
  | ⟨.signal number _, .error _⟩, next =>
    (obliging → ¬ crowd.ReachesOwn caller number) ∧ next = crowd
  | ⟨.wait pid, .ok exit⟩, next =>
    (∃ other, crowd.Owns other pid.toNat) ∧
      ∃ processes, crowd.processes.wait pid.toNat = .ok (exit, processes) ∧
        next = { crowd with processes }
  | ⟨.wait pid, .error _⟩, next =>
    (obliging → ¬ crowd.Owns caller pid.toNat) ∧ next = crowd
  | _, next => next = crowd

def surroundings (obliging : Prop) : Surroundings Crowd where
  answers := Answers obliging
  drifts := Drift

variable {crowd next : Crowd} {caller pid : Nat} {obliging : Prop}

/-! ### The numbers in the table -/

theorem pids_joined (process : Machine.Process) (keeper : Option Nat) :
    (crowd.joined process keeper).pids = crowd.pids ++ [process.pid] :=
  List.map_append

theorem mem_pids_left {other : Nat} :
    other ∈ (crowd.left pid).pids ↔ other ∈ crowd.pids ∧ other ≠ pid := by
  simp only [pids, left, Machine.Processes.release, List.mem_map, List.mem_filter,
    decide_eq_true_eq]
  constructor
  · rintro ⟨process, ⟨member, differs⟩, rfl⟩
    exact ⟨⟨process, member, rfl⟩, differs⟩
  · rintro ⟨⟨process, member, rfl⟩, differs⟩
    exact ⟨process, ⟨member, differs⟩, rfl⟩

theorem pids_finish (crowd : Crowd) (pid : Nat) :
    ({ crowd with processes := crowd.processes.finish pid } : Crowd).pids = crowd.pids := by
  simp only [pids, Machine.Processes.finish, List.map_map]
  apply List.map_congr_left
  intro process member
  by_cases same : process.pid = pid
  · simp [same]
  · simp [same]

theorem pids_signal {number : Int32} {sent : Option Kernel.Signal}
    {processes : Machine.Processes}
    (delivered : crowd.processes.signal number sent = .ok processes) :
    ({ crowd with processes } : Crowd).pids = crowd.pids := by
  unfold Machine.Processes.signal at delivered
  split at delivered
  · cases sent with
    | none =>
      cases delivered
      rfl
    | some signal =>
      cases delivered
      simp only [pids, List.map_map]
      apply List.map_congr_left
      intro process member
      by_cases addressed : crowd.processes.addresses number process = true
      · simp [addressed]
      · simp [addressed]
  · cases delivered

theorem left_of_wait {exit : Kernel.Exit} {processes : Machine.Processes}
    (waited : crowd.processes.wait pid = .ok (exit, processes)) :
    { crowd with processes } = crowd.left pid := by
  unfold Machine.Processes.wait at waited
  split at waited
  · cases waited
  · cases waited
    rfl

/-! ### Who owns what -/

theorem owns_joined_iff {process : Machine.Process} {keeper : Option Nat}
    (unused : process.pid ∉ crowd.pids) :
    (crowd.joined process keeper).Owns caller pid ↔
      crowd.Owns caller pid ∨ pid = process.pid ∧ keeper = some caller := by
  unfold Owns
  rw [pids_joined, List.mem_append, List.mem_singleton]
  by_cases same : pid = process.pid
  · subst same
    simp [joined, unused]
  · simp [joined, same]

theorem owns_left_iff {gone : Nat} :
    (crowd.left gone).Owns caller pid ↔ crowd.Owns caller pid ∧ pid ≠ gone := by
  unfold Owns
  rw [mem_pids_left]
  exact and_right_comm

theorem Drift.owns_iff (drift : Drift crowd next) :
    next.Owns caller pid ↔ crowd.Owns caller pid := by
  cases drift with
  | coming stranger unused =>
    rw [owns_joined_iff unused]
    simp
  | ending gone =>
    unfold Owns
    rw [pids_finish]
  | going gone stranger =>
    rw [owns_left_iff]
    constructor
    · exact And.left
    · intro owns
      refine ⟨owns, ?_⟩
      rintro rfl
      cases stranger.symm.trans owns.2

/-- One exchange adds the child that it started, and takes the child away that it waited for. -/
theorem Answers.owns_iff {exchange : Exchange} {owner : Nat}
    (answer : Answers obliging caller crowd exchange next) :
    next.Owns owner pid ↔
      (crowd.Owns owner pid ∧ ∀ gone, exchange.reaped? = some gone → pid ≠ gone.toNat) ∨
      ∃ child, exchange.spawned? = some child ∧ pid = child.toNat ∧ owner = caller := by
  unfold Answers at answer
  split at answer
  · obtain ⟨unused, -, -, atLast, rfl⟩ := answer
    rw [owns_joined_iff unused]
    simp [eq_comm]
  · obtain ⟨processes, delivered, rfl⟩ := answer
    unfold Owns
    rw [pids_signal delivered]
    simp
  · obtain ⟨-, rfl⟩ := answer
    simp
  · obtain ⟨-, processes, waited, rfl⟩ := answer
    rw [left_of_wait waited, owns_left_iff]
    simp
  · obtain ⟨-, rfl⟩ := answer
    simp
  · -- Any other exchange neither starts a child nor waits for one.
    subst answer
    constructor
    · intro owns
      refine .inl ⟨owns, fun gone reaped => ?_⟩
      obtain ⟨exit, rfl⟩ := Exchange.eq_of_reaped? reaped
      simp_all
    · rintro (⟨owns, -⟩ | ⟨child, spawned, -⟩)
      · exact owns
      · obtain ⟨program, arguments, rfl⟩ := Exchange.eq_of_spawned? spawned
        simp_all

/-! ### What a sound table keeps -/

/-- No two processes share a number, and the children have numbers that a signal can name. -/
structure Sound (crowd : Crowd) : Prop where
  distinct : crowd.pids.Nodup
  named : ∀ caller pid, crowd.Owns caller pid → 0 < pid ∧ pid < pidLimit

theorem nodup_joined {process : Machine.Process} {keeper : Option Nat}
    (unused : process.pid ∉ crowd.pids) (distinct : crowd.pids.Nodup) :
    (crowd.joined process keeper).pids.Nodup := by
  rw [pids_joined, List.nodup_append]
  refine ⟨distinct, by simp, ?_⟩
  intro pid member other same
  rw [List.mem_singleton] at same
  subst same
  rintro rfl
  exact unused member

theorem nodup_left (pid : Nat) (distinct : crowd.pids.Nodup) : (crowd.left pid).pids.Nodup :=
  distinct.sublist (List.filter_sublist.map _)

theorem Drift.sound (drift : Drift crowd next) (sound : crowd.Sound) : next.Sound where
  distinct := by
    cases drift with
    | coming stranger unused => exact nodup_joined unused sound.distinct
    | ending pid =>
      rw [pids_finish]
      exact sound.distinct
    | going pid => exact nodup_left pid sound.distinct
  named caller pid owns := sound.named caller pid (drift.owns_iff.mp owns)

theorem Answers.of_spawned {exchange : Exchange} {child : UInt32}
    (answer : Answers obliging caller crowd exchange next)
    (spawned : exchange.spawned? = some child) :
    child.toNat ∉ crowd.pids ∧ 0 < child.toNat ∧ child.toNat < pidLimit := by
  obtain ⟨program, arguments, rfl⟩ := Exchange.eq_of_spawned? spawned
  obtain ⟨unused, positive, small, -⟩ := answer
  exact ⟨unused, positive, small⟩

theorem Answers.sound {exchange : Exchange}
    (answer : Answers obliging caller crowd exchange next) (sound : crowd.Sound) : next.Sound := by
  constructor
  · unfold Answers at answer
    split at answer
    · obtain ⟨unused, -, -, atLast, rfl⟩ := answer
      exact nodup_joined unused sound.distinct
    · obtain ⟨processes, delivered, rfl⟩ := answer
      rw [pids_signal delivered]
      exact sound.distinct
    · obtain ⟨-, rfl⟩ := answer
      exact sound.distinct
    · obtain ⟨-, processes, waited, rfl⟩ := answer
      rw [left_of_wait waited]
      exact nodup_left _ sound.distinct
    · obtain ⟨-, rfl⟩ := answer
      exact sound.distinct
    · rw [answer]
      exact sound.distinct
  · intro owner pid owns
    rcases answer.owns_iff.mp owns with ⟨owned, -⟩ | ⟨child, spawned, rfl, -⟩
    · exact sound.named owner pid owned
    · exact (answer.of_spawned spawned).2

/-! ### Signals to a child -/

theorem toInt_kernelPid {pid : UInt32} (small : pid.toNat < pidLimit) :
    (Program.kernelPid pid).toInt = pid.toNat := by
  have sameBits : (Program.kernelPid pid).toInt = pid.toBitVec.toInt := rfl
  rw [sameBits, BitVec.toInt_eq_toNat_of_lt]
  · rfl
  · have sameNat : pid.toBitVec.toNat = pid.toNat := rfl
    unfold pidLimit at small
    omega

theorem addresses_kernelPid {processes : Machine.Processes} {pid : UInt32}
    (positive : 0 < pid.toNat) (small : pid.toNat < pidLimit) (process : Machine.Process) :
    processes.addresses (Program.kernelPid pid) process = decide (process.pid = pid.toNat) := by
  have isPid : (0 : Int) < pid.toNat := by omega
  simp only [Machine.Processes.addresses, toInt_kernelPid small, isPid, if_true, Int.toNat_natCast]

theorem filter_pid_eq_singleton {table : List Machine.Process} {process : Machine.Process}
    (distinct : (table.map Machine.Process.pid).Nodup) (member : process ∈ table) :
    table.filter (fun other => decide (other.pid = process.pid)) = [process] := by
  induction table with
  | nil => cases member
  | cons first rest ih =>
    rw [List.map_cons, List.nodup_cons] at distinct
    obtain ⟨unused, distinct⟩ := distinct
    rcases List.mem_cons.mp member with rfl | member
    · have others : rest.filter (fun other => decide (other.pid = process.pid)) = [] := by
        rw [List.filter_eq_nil_iff]
        intro other among same
        exact unused (List.mem_map.mpr ⟨other, among, of_decide_eq_true same⟩)
      rw [List.filter_cons_of_pos (by simp), others]
    · have differs : first.pid ≠ process.pid := by
        intro same
        exact unused (List.mem_map.mpr ⟨process, member, same.symm⟩)
      rw [List.filter_cons_of_neg (by simpa using differs)]
      exact ih distinct member

/-- A signal to a child by its number goes to that child only. -/
theorem addressees_of_owns {pid : UInt32} (sound : crowd.Sound)
    (owns : crowd.Owns caller pid.toNat) :
    ∃ process, crowd.addressees (Program.kernelPid pid) = [process] ∧ process.pid = pid.toNat := by
  obtain ⟨positive, small⟩ := sound.named caller pid.toNat owns
  obtain ⟨process, member, isPid⟩ := List.mem_map.mp owns.1
  refine ⟨process, ?_, isPid⟩
  have picked := filter_pid_eq_singleton sound.distinct member
  rw [isPid] at picked
  rw [← picked]
  exact List.filter_congr fun other _ => addresses_kernelPid positive small other

theorem reachesOwn_of_owns {pid : UInt32} (sound : crowd.Sound)
    (owns : crowd.Owns caller pid.toNat) :
    crowd.ReachesOwn caller (Program.kernelPid pid) := by
  obtain ⟨process, alone, isPid⟩ := addressees_of_owns sound owns
  exact ⟨process, alone, isPid ▸ owns.2⟩

/-! ### Several exchanges in a row -/

variable {trace : List Exchange}

theorem along_sound (along : (surroundings obliging).Along caller crowd trace next)
    (sound : crowd.Sound) : next.Sound :=
  along.preserves (fun _ _ => Drift.sound) (fun _ _ _ _ => Answers.sound) sound

/-- Exchanges that neither start nor wait for a child leave every child to its caller. -/
theorem along_owns_iff (along : (surroundings obliging).Along caller crowd trace next)
    (spared : ∀ exchange ∈ trace, exchange.spawned? = none ∧ exchange.reaped? = none)
    {owner pid : Nat} : next.Owns owner pid ↔ crowd.Owns owner pid := by
  refine along.preserves (P := fun reached => reached.Owns owner pid ↔ crowd.Owns owner pid)
    ?_ ?_ Iff.rfl
  · intro a b drift same
    exact drift.owns_iff.trans same
  · intro exchange member a b answer same
    obtain ⟨noChild, noWait⟩ := spared exchange member
    rw [← same, answer.owns_iff, noChild, noWait]
    simp

/-- Before the first exchange the crowd drifts, which leaves it sound and changes no ownership. -/
theorem exists_of_along_cons {exchange : Exchange} (sound : crowd.Sound)
    (along : (surroundings obliging).Along caller crowd (exchange :: trace) next) :
    ∃ asked answered, asked.Sound ∧ (∀ owner pid, asked.Owns owner pid ↔ crowd.Owns owner pid) ∧
      Answers obliging caller asked exchange answered ∧
      (surroundings obliging).Along caller answered trace next := by
  obtain ⟨asked, answered, drift, answer, rest⟩ := along
  have toAsked : (surroundings obliging).Along caller crowd [] asked := drift
  have same (owner pid : Nat) : asked.Owns owner pid ↔ crowd.Owns owner pid :=
    along_owns_iff toAsked (List.forall_mem_nil _)
  exact ⟨asked, answered, along_sound toAsked sound, same, answer, rest⟩

theorem quiet_surroundings (obliging : Prop) : (surroundings obliging).Quiet := by
  rintro caller crowd ⟨request, reply⟩ next silent
  cases request with
  | log event => exact Iff.rfl
  | _ => cases silent

end Crowd

end HostEngine
