import HostEngine.Proofs.Crowd
/-!
# Whom a number means

Asking for a process and killing one hand the kernel a number with a sign, taken from one without. A
jurisdiction is a table of processes with those that the sender may signal. Both operations do what
their number promises exactly if the kernel reads it as the number of a process, or if it means
nobody (`exactAt_iff`); zero and the numbers from 2^31 on mean groups (`Means`).
-/
set_option autoImplicit false

namespace HostEngine

/-- A table of processes, the numbers of those that the sender may signal, and who was sent what. -/
structure Jurisdiction where
  processes : Machine.Processes
  permits : Nat → Bool
  delivered : List (Nat × Kernel.Signal)

namespace Jurisdiction

open Procedure Program

variable {jurisdiction : Jurisdiction} {pid : UInt32} {number : Int32}

def pids (jurisdiction : Jurisdiction) : List Nat :=
  jurisdiction.processes.table.map Machine.Process.pid

/-- The process gets what is sent to a number: it is addressed, and the sender may signal it. -/
def reaches (jurisdiction : Jurisdiction) (number : Int32) (process : Machine.Process) : Bool :=
  jurisdiction.processes.addresses number process && jurisdiction.permits process.pid

def receivers (jurisdiction : Jurisdiction) (number : Int32) : List Nat :=
  (jurisdiction.processes.table.filter (jurisdiction.reaches number)).map Machine.Process.pid

def deliver (jurisdiction : Jurisdiction) (number : Int32) (signal : Kernel.Signal) :
    Jurisdiction where
  processes := { jurisdiction.processes with
    table := jurisdiction.processes.table.map fun process =>
      if jurisdiction.reaches number process then
        { process with condition := process.condition.receive signal }
      else process }
  permits := jurisdiction.permits
  delivered :=
    jurisdiction.delivered ++ (jurisdiction.receivers number).map fun receiver => (receiver, signal)

/-- Sends a signal, or only looks for someone it could be sent to. It fails if the number addresses
nobody, and if the sender may signal none of those it addresses. -/
def signal (jurisdiction : Jurisdiction) (number : Int32) (sent : Option Kernel.Signal) :
    Except Kernel.Errno Unit × Jurisdiction :=
  if jurisdiction.processes.table.any (jurisdiction.processes.addresses number) then
    if jurisdiction.processes.table.any (jurisdiction.reaches number) then
      (.ok (), (sent.map (jurisdiction.deliver number)).getD jurisdiction)
    else (.error .notPermitted, jurisdiction)
  else (.error .noProcess, jurisdiction)

def answer : (r : Request) → Jurisdiction → r.Reply × Jurisdiction
  | .signal number sent, jurisdiction => jurisdiction.signal number sent
  | r, jurisdiction => (anyReply r, jurisdiction)

def run {α : Type} (jurisdiction : Jurisdiction) (p : Procedure α) : α × Jurisdiction :=
  p.run answer jurisdiction

/-- Where the sender may signal everybody, the processes do what those of a machine do. -/
theorem signal_of_permits (all : ∀ pid, jurisdiction.permits pid = true)
    (sent : Option Kernel.Signal) :
    jurisdiction.processes.signal number sent =
      (jurisdiction.signal number sent).1.map fun _ =>
        (jurisdiction.signal number sent).2.processes := by
  have same : jurisdiction.reaches number = jurisdiction.processes.addresses number := by
    funext process
    rw [reaches, all, Bool.and_true]
  unfold signal Machine.Processes.signal
  rw [same]
  by_cases addressed :
    jurisdiction.processes.table.any (jurisdiction.processes.addresses number) = true
  · rw [if_pos addressed, if_pos addressed]
    rw [if_pos addressed]
    cases sent with
    | none => rfl
    | some signal =>
      simp only [deliver, same, Except.map, Option.map_some, Option.getD_some]
  · rw [if_neg addressed, if_neg addressed]
    rfl

/-! ### Whom a number without a sign means -/

/-- One above the greatest number without a sign. -/
def wordSize : Nat := 4294967296

/-- The process is meant by a number without a sign: by its own number, by its group if that is the
sender's and the number zero, or by the number's distance from 2^32. That distance names a group;
one names everybody but the first process and the sender. -/
def Means (jurisdiction : Jurisdiction) (pid : UInt32) (process : Machine.Process) : Prop :=
  if pid.toNat = 0 then process.group = jurisdiction.processes.ownGroup
  else if pid.toNat < Crowd.pidLimit then process.pid = pid.toNat
  else if pid.toNat + 1 = wordSize then
    process.pid ≠ Machine.Processes.initial ∧ process.pid ≠ jurisdiction.processes.own
  else pid.toNat ≠ Crowd.pidLimit ∧ process.group = wordSize - pid.toNat

instance (process : Machine.Process) : Decidable (jurisdiction.Means pid process) := by
  unfold Means
  infer_instance

theorem toInt_kernelPid_of_large (large : Crowd.pidLimit ≤ pid.toNat) :
    (kernelPid pid).toInt = (pid.toNat : Int) - wordSize := by
  have signed : (kernelPid pid).toInt =
      if 2 * pid.toNat < 2 ^ 32 then (pid.toNat : Int) else (pid.toNat : Int) - (2 ^ 32 : Nat) :=
    BitVec.toInt_eq_toNat_cond pid.toBitVec
  have above : ¬ 2 * pid.toNat < 2 ^ 32 := by
    unfold Crowd.pidLimit at large
    omega
  rw [signed, if_neg above]
  rfl

theorem addresses_eq_true_iff (process : Machine.Process) :
    jurisdiction.processes.addresses (kernelPid pid) process = true ↔
      jurisdiction.Means pid process := by
  have bound : pid.toNat < wordSize := pid.toNat_lt
  unfold Means
  by_cases zero : pid.toNat = 0
  · have isZero : (kernelPid pid).toInt = 0 := by
      rw [Crowd.toInt_kernelPid (by rw [zero]; decide), zero]
      rfl
    simp [Machine.Processes.addresses, isZero, zero]
  rw [if_neg zero]
  by_cases small : pid.toNat < Crowd.pidLimit
  · rw [if_pos small, Crowd.addresses_kernelPid (by omega) small, decide_eq_true_eq]
  rw [if_neg small]
  have isNegative := toInt_kernelPid_of_large (Nat.le_of_not_lt small)
  have notPositive : ¬ (0 : Int) < (pid.toNat : Int) - wordSize := by omega
  have notZero : (pid.toNat : Int) - wordSize ≠ 0 := by omega
  unfold Machine.Processes.addresses
  rw [isNegative, if_neg notPositive, if_neg notZero]
  by_cases last : pid.toNat + 1 = wordSize
  · have isMinusOne : (pid.toNat : Int) - wordSize = -1 := by omega
    rw [if_pos isMinusOne, if_pos last]
    simp
  · have notMinusOne : (pid.toNat : Int) - wordSize ≠ -1 := by omega
    have isLeast : (pid.toNat : Int) - wordSize = Int32.minValue.toInt ↔
        pid.toNat = Crowd.pidLimit := by
      rw [Int32.toInt_minValue]
      unfold wordSize Crowd.pidLimit
      omega
    have distance : (-((pid.toNat : Int) - wordSize)).toNat = wordSize - pid.toNat := by omega
    rw [if_neg notMinusOne, if_neg last, distance, Bool.and_eq_true, decide_eq_true_eq,
      decide_eq_true_eq]
    exact and_congr_left' (not_congr isLeast)

/-! ### What the operations do -/

def MeansSomebody (jurisdiction : Jurisdiction) (pid : UInt32) : Prop :=
  ∃ process ∈ jurisdiction.processes.table, jurisdiction.Means pid process

theorem any_addresses_iff :
    jurisdiction.processes.table.any (jurisdiction.processes.addresses (kernelPid pid)) = true ↔
      jurisdiction.MeansSomebody pid := by
  rw [List.any_eq_true]
  unfold MeansSomebody
  simp only [addresses_eq_true_iff]

theorem mem_receivers_iff {receiver : Nat} :
    receiver ∈ jurisdiction.receivers (kernelPid pid) ↔
      ∃ process ∈ jurisdiction.processes.table, jurisdiction.Means pid process ∧
        jurisdiction.permits process.pid = true ∧ process.pid = receiver := by
  simp only [receivers, reaches, List.mem_map, List.mem_filter, Bool.and_eq_true,
    addresses_eq_true_iff, and_assoc]

/-- Asking never fails, and finds a process if the number means somebody, whether the sender may
signal it or not. -/
theorem run_processExists_eq_true_iff :
    (jurisdiction.run (processExists pid)).1 = .ok true ↔ jurisdiction.MeansSomebody pid := by
  have asked : (jurisdiction.run (processExists pid)).1 =
      existence pid (jurisdiction.signal (kernelPid pid) none).1 := rfl
  rw [asked, ← any_addresses_iff]
  unfold signal
  by_cases addressed :
    jurisdiction.processes.table.any (jurisdiction.processes.addresses (kernelPid pid)) = true
  · rw [if_pos addressed]
    by_cases reached :
      jurisdiction.processes.table.any (jurisdiction.reaches (kernelPid pid)) = true
    · rw [if_pos reached]
      simp [existence, addressed]
    · rw [if_neg reached]
      simp [existence, addressed, Kernel.Errno.notPermitted, Kernel.Errno.noProcess]
  · rw [if_neg addressed]
    simp [existence, addressed]

theorem run_step {β : Type} {r : Request} {go : r.Reply → Procedure β} {f : r.Reply → β}
    (ends : ∀ reply, go reply = done (f reply)) (jurisdiction : Jurisdiction) :
    jurisdiction.run (perform r >>= go) =
      (f (answer r jurisdiction).1, (answer r jurisdiction).2) := by
  show Procedure.run answer (go _) _ = _
  rw [ends]
  rfl

theorem run_forceKill (jurisdiction : Jurisdiction) (pid : UInt32) :
    jurisdiction.run (forceKill pid) =
      ((jurisdiction.signal (kernelPid pid) (some .kill)).1.mapError
          fun errno => .signal pid errno.labelled,
        (jurisdiction.signal (kernelPid pid) (some .kill)).2) := by
  apply run_step
  intro reply
  cases reply with
  | ok u => rfl
  | error errno => rfl

theorem run_forceKill_of_nobody (nobody : ¬ jurisdiction.MeansSomebody pid) :
    jurisdiction.run (forceKill pid) =
      (.error (.signal pid Kernel.Errno.noProcess.labelled), jurisdiction) := by
  rw [run_forceKill, signal, if_neg ((not_congr any_addresses_iff).mpr nobody)]
  rfl

theorem any_reaches_iff :
    jurisdiction.processes.table.any (jurisdiction.reaches number) = true ↔
      jurisdiction.receivers number ≠ [] := by
  rw [receivers, ne_eq, List.map_eq_nil_iff, List.filter_eq_nil_iff, List.any_eq_true]
  constructor
  · rintro ⟨process, member, reaches⟩ nobody
    exact nobody process member reaches
  · intro somebody
    apply Classical.byContradiction
    intro nobody
    exact somebody fun process member reaches => nobody ⟨process, member, reaches⟩

theorem any_addresses_of_reaches
    (reached : jurisdiction.processes.table.any (jurisdiction.reaches number) = true) :
    jurisdiction.processes.table.any (jurisdiction.processes.addresses number) = true := by
  rw [List.any_eq_true] at reached ⊢
  obtain ⟨process, member, reaches⟩ := reached
  exact ⟨process, member, (Bool.and_eq_true_iff.mp reaches).1⟩

theorem run_forceKill_eq_ok_iff :
    (jurisdiction.run (forceKill pid)).1 = .ok () ↔
      jurisdiction.receivers (kernelPid pid) ≠ [] := by
  rw [run_forceKill, ← any_reaches_iff]
  unfold signal
  by_cases reached : jurisdiction.processes.table.any (jurisdiction.reaches (kernelPid pid)) = true
  · rw [if_pos (any_addresses_of_reaches reached), if_pos reached]
    exact iff_of_true rfl reached
  · rw [if_neg reached]
    refine iff_of_false ?_ reached
    split
    · exact nofun
    · exact nofun

theorem delivered_forceKill (jurisdiction : Jurisdiction) (pid : UInt32) :
    (jurisdiction.run (forceKill pid)).2.delivered = jurisdiction.delivered ++
      (jurisdiction.receivers (kernelPid pid)).map fun receiver => (receiver, .kill) := by
  rw [run_forceKill]
  unfold signal
  by_cases reached : jurisdiction.processes.table.any (jurisdiction.reaches (kernelPid pid)) = true
  · rw [if_pos (any_addresses_of_reaches reached), if_pos reached]
    rfl
  · have nobody : jurisdiction.receivers (kernelPid pid) = [] :=
      Decidable.not_not.mp ((not_congr any_reaches_iff).mp reached)
    rw [nobody, List.map_nil, List.append_nil, if_neg reached]
    split
    · rfl
    · rfl

/-! ### Exactness -/

/-- All numbers in the table are ones that the kernel hands out. -/
def Sound (jurisdiction : Jurisdiction) : Prop :=
  ∀ pid ∈ jurisdiction.pids, 0 < pid ∧ pid < Crowd.pidLimit

instance : Decidable jurisdiction.Sound :=
  inferInstanceAs (Decidable (∀ pid ∈ jurisdiction.pids, 0 < pid ∧ pid < Crowd.pidLimit))

/-- Asking and killing are about the process with exactly this number: it is found if and only if it
is in the table, running or ended, nobody else is sent anything, and without it a kill fails. -/
structure ExactAt (jurisdiction : Jurisdiction) (pid : UInt32) : Prop where
  found_iff : (jurisdiction.run (processExists pid)).1 = .ok true ↔ pid.toNat ∈ jurisdiction.pids
  alone : ∀ delivery ∈ (jurisdiction.run (forceKill pid)).2.delivered,
    delivery ∈ jurisdiction.delivered ∨ delivery = (pid.toNat, .kill)
  refused : pid.toNat ∉ jurisdiction.pids →
    ∃ reason, (jurisdiction.run (forceKill pid)).1 = .error (.signal pid reason)

/-- The kernel reads the number as that of one process. -/
def NamesProcess (pid : UInt32) : Prop := 0 < pid.toNat ∧ pid.toNat < Crowd.pidLimit

instance : Decidable (NamesProcess pid) :=
  inferInstanceAs (Decidable (0 < pid.toNat ∧ pid.toNat < Crowd.pidLimit))

theorem means_iff_of_namesProcess (names : NamesProcess pid) (process : Machine.Process) :
    jurisdiction.Means pid process ↔ process.pid = pid.toNat := by
  obtain ⟨positive, small⟩ := names
  unfold Means
  rw [if_neg (Nat.ne_of_gt positive), if_pos small]

theorem exactAt_of_namesProcess (names : NamesProcess pid) : jurisdiction.ExactAt pid := by
  have somebody : jurisdiction.MeansSomebody pid ↔ pid.toNat ∈ jurisdiction.pids := by
    simp only [MeansSomebody, means_iff_of_namesProcess names, pids, List.mem_map]
  refine ⟨run_processExists_eq_true_iff.trans somebody, ?_, ?_⟩
  · intro delivery delivered
    rw [delivered_forceKill, List.mem_append, List.mem_map] at delivered
    rcases delivered with before | ⟨receiver, receives, rfl⟩
    · exact .inl before
    · obtain ⟨process, -, means, -, rfl⟩ := mem_receivers_iff.mp receives
      rw [(means_iff_of_namesProcess names process).mp means]
      exact .inr rfl
  · intro missing
    rw [run_forceKill_of_nobody ((not_congr somebody).mpr missing)]
    exact ⟨_, rfl⟩

theorem exactAt_of_nobody (sound : jurisdiction.Sound) (names : ¬ NamesProcess pid)
    (nobody : ¬ jurisdiction.MeansSomebody pid) : jurisdiction.ExactAt pid := by
  have missing : pid.toNat ∉ jurisdiction.pids := fun member => names (sound _ member)
  refine ⟨run_processExists_eq_true_iff.trans (iff_of_false nobody missing), ?_, fun _ => ?_⟩
  · rw [run_forceKill_of_nobody nobody]
    exact fun delivery before => .inl before
  · rw [run_forceKill_of_nobody nobody]
    exact ⟨_, rfl⟩

/-- Asking and killing are about the process with their number exactly if the kernel reads the
number as that of one process, or if it means nobody. Whatever the number is, asking finds whom it
means, and a kill goes to all whom it means and whom the sender may signal. It fails if there are
none. -/
theorem exactAt_iff (sound : jurisdiction.Sound) (pid : UInt32) :
    (jurisdiction.ExactAt pid ↔ NamesProcess pid ∨ ¬ jurisdiction.MeansSomebody pid) ∧
    ((jurisdiction.run (processExists pid)).1 = .ok true ↔ jurisdiction.MeansSomebody pid) ∧
    ((jurisdiction.run (forceKill pid)).1 = .ok () ↔ jurisdiction.receivers (kernelPid pid) ≠ []) ∧
    (jurisdiction.run (forceKill pid)).2.delivered = jurisdiction.delivered ++
      (jurisdiction.receivers (kernelPid pid)).map (fun receiver => (receiver, .kill)) ∧
    ∀ receiver, receiver ∈ jurisdiction.receivers (kernelPid pid) ↔
      ∃ process ∈ jurisdiction.processes.table, jurisdiction.Means pid process ∧
        jurisdiction.permits process.pid = true ∧ process.pid = receiver := by
  refine ⟨⟨fun exact => ?_, ?_⟩, run_processExists_eq_true_iff, run_forceKill_eq_ok_iff,
    delivered_forceKill jurisdiction pid, fun receiver => mem_receivers_iff⟩
  · -- Whoever is meant is found, so the number is in the table, where all are numbers of processes.
    by_cases somebody : jurisdiction.MeansSomebody pid
    · have found := exact.found_iff.mp (run_processExists_eq_true_iff.mpr somebody)
      exact .inl (sound _ found)
    · exact .inr somebody
  · rintro (names | nobody)
    · exact exactAt_of_namesProcess names
    · by_cases names : NamesProcess pid
      · exact exactAt_of_namesProcess names
      · exact exactAt_of_nobody sound names nobody

/-- The number 2^32 - 4 is that of no process, but kills the whole group of the process 4. -/
theorem exactAt_iff_of_group :
    let jurisdiction : Jurisdiction :=
      ⟨⟨3, 3, [⟨1, 1, .running (.code 0)⟩, ⟨3, 3, .running (.code 0)⟩, ⟨4, 4, .ended (.code 1)⟩,
        ⟨5, 4, .running (.code 0)⟩]⟩, fun pid => pid != 1, []⟩
    jurisdiction.Sound ∧ ¬ jurisdiction.ExactAt 4294967292 ∧ jurisdiction.ExactAt 4 ∧
      (jurisdiction.run (forceKill 4294967292)).2.delivered = [(4, .kill), (5, .kill)] := by
  intro jurisdiction
  have sound : jurisdiction.Sound := by decide
  have somebody : jurisdiction.MeansSomebody 4294967292 :=
    ⟨⟨5, 4, .running (.code 0)⟩, by decide, by decide⟩
  obtain ⟨exact, -, -, delivered, -⟩ := exactAt_iff sound 4294967292
  refine ⟨sound, fun holds => ?_, (exactAt_iff sound 4).1.mpr (.inl (by decide)), delivered⟩
  rcases exact.mp holds with names | nobody
  · exact absurd names (by decide)
  · exact nobody somebody

/-- Zero is the number of no process, but a process is found by it: the number means the sender's
own group, which the sender is in. -/
theorem not_exactAt_zero :
    let jurisdiction : Jurisdiction := ⟨.fresh 2 3, fun _ => true, []⟩
    jurisdiction.Sound ∧ (0 : UInt32).toNat ∉ jurisdiction.pids ∧
      (jurisdiction.run (processExists 0)).1 = .ok true ∧ ¬ jurisdiction.ExactAt 0 := by
  intro jurisdiction
  have missing : (0 : UInt32).toNat ∉ jurisdiction.pids := by decide
  have found : (jurisdiction.run (processExists 0)).1 = .ok true :=
    run_processExists_eq_true_iff.mpr ⟨⟨3, 3, .running (.code 0)⟩, by decide, by decide⟩
  exact ⟨by decide, missing, found, fun exact => missing (exact.found_iff.mp found)⟩

end Jurisdiction

end HostEngine
