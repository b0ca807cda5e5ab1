import HostEngine.Proofs.Effects
import HostEngine.Session.Shutdown
/-!
# What the single steps of a start or a shutdown do

One statement for each of the small procedures that starting and shutting down are made of. Each
says which exchanges the procedure makes and which result goes with them; what it logs is left out.
-/
set_option autoImplicit false

namespace HostEngine

open Procedure

variable {done : List Exchange}

namespace Program

theorem performs_find_iff {name : String} {searchPath : Option String}
    {result : Except Failure Octets} (named : name.isEmpty = false) :
    (find name searchPath).Performs done result ↔
      ∃ reply : Except String Octets, done = [⟨.find name searchPath, reply⟩] ∧
        result = reply.mapError (Failure.notFound name) := by
  unfold find
  rw [if_neg (by simp [named])]
  apply performs_step_iff
  intro reply
  cases reply with
  | ok path => exact silent_pure _
  | error reason => exact silent_pure _

theorem silent_find {name : String} {searchPath : Option String} (unnamed : name.isEmpty = true) :
    Silent (find name searchPath) (.error emptyName) := by
  unfold find
  rw [if_pos unnamed]
  exact silent_pure _

theorem performs_spawn_iff {program : Octets} {arguments : List Octets}
    {result : Except Failure UInt32} :
    (spawn program arguments).Performs done result ↔
      ∃ reply : Except Kernel.Fault UInt32, done = [⟨.spawn program arguments, reply⟩] ∧
        result = reply.mapError fun fault => .spawn program.shown fault.text := by
  apply performs_step_iff
  intro reply
  cases reply with
  | ok pid => exact (silent_log _ _ _).bind (silent_pure _)
  | error fault => exact silent_pure _

def succeeded : Except Kernel.Fault Kernel.Exit → Bool
  | .ok exit => exit.isSuccess
  | .error _ => false

def verdict (program : Octets) : Except Kernel.Fault Kernel.Exit → Except Failure Unit
  | .ok exit => if exit.isSuccess then .ok () else .error (.command program.shown exit.text)
  | .error fault => .error (.command program.shown fault.text)

theorem isOk_verdict (program : Octets) (reply : Except Kernel.Fault Kernel.Exit) :
    (verdict program reply).isOk = succeeded reply := by
  cases reply with
  | ok exit =>
    by_cases success : exit.isSuccess = true
    · simp [verdict, succeeded, success, Except.isOk, Except.toBool]
    · simp [verdict, succeeded, success, Except.isOk, Except.toBool]
  | error fault => rfl

theorem performs_runToEnd_iff {program : Octets} {arguments : List Octets}
    {result : Except Failure Unit} :
    (runToEnd program arguments).Performs done result ↔
      ∃ reply, done = [⟨.runToEnd program arguments, reply⟩] ∧ result = verdict program reply := by
  apply performs_step_iff
  intro reply
  cases reply with
  | ok exit =>
    by_cases success : exit.isSuccess = true
    · simpa [verdict, success] using silent_pure _
    · simpa [verdict, success] using silent_pure _
  | error fault => exact silent_pure _

theorem performs_forceKill_iff {pid : UInt32} {result : Except Failure Unit} :
    (forceKill pid).Performs done result ↔
      ∃ reply : Except Kernel.Errno Unit,
        done = [⟨.signal (kernelPid pid) (some .kill), reply⟩] ∧
        result = reply.mapError fun errno => .signal pid errno.labelled := by
  apply performs_step_iff
  intro reply
  cases reply with
  | ok u => exact silent_pure _
  | error errno => exact silent_pure _

end Program

namespace Session

theorem performs_release_iff {library : Native.Library} {u : Unit} :
    (release library).Performs done u ↔ ∃ reply, done = [⟨.unload library, reply⟩] ∧ u = () := by
  apply performs_step_iff
  intro reply
  cases reply with
  | ok v => exact silent_log _ _ _
  | error reason => exact silent_log _ _ _

theorem performs_reap_iff {child : Child} {u : Unit} :
    (reap child).Performs done u ↔ ∃ reply, done = [⟨.wait child.pid, reply⟩] ∧ u = () := by
  apply performs_step_iff
  intro reply
  cases reply with
  | ok exit => exact silent_log _ _ _
  | error fault => exact silent_log _ _ _

theorem performs_reap_bind_iff {β : Type} {child : Child} {a b : β} :
    (reap child >>= fun _ => pure a).Performs done b ↔
      ∃ reply, done = [⟨.wait child.pid, reply⟩] ∧ b = a := by
  rw [performs_bind_silent_iff fun _ => silent_pure a]
  constructor
  · rintro ⟨u, hreap, rfl⟩
    obtain ⟨reply, rfl, -⟩ := performs_reap_iff.mp hreap
    exact ⟨reply, rfl, rfl⟩
  · rintro ⟨reply, rfl, rfl⟩
    exact ⟨(), performs_reap_iff.mpr ⟨reply, rfl, rfl⟩, rfl⟩

theorem performs_removeSocket_iff {child : Child} {u : Unit} :
    (removeSocket child).Performs done u ↔
      ∃ reply, done = [⟨.remove child.socketPath, reply⟩] ∧ u = () := by
  apply performs_step_iff
  intro reply
  cases reply with
  | ok v => exact silent_log _ _ _
  | error fault =>
    by_cases missing : fault.isMissing = true
    · simpa [missing] using silent_log _ _ _
    · simpa [missing] using silent_log _ _ _

theorem performs_shutdownLibrary_iff {library : Native.Library} {result : Except Failure Unit} :
    (shutdownLibrary library).Performs done result ↔
      ∃ reply : Except Native.Failure Unit, done = [.called library .shutdown reply] ∧
        result = reply.mapError (.native .shutdown) := by
  apply performs_step_iff
  intro reply
  cases reply with
  | ok v => exact silent_pure _
  | error failure => exact silent_pure _

theorem silent_reportEnd (mode : Mode) (outcome : Except Failure Unit) :
    Silent (reportEnd mode outcome) () := by
  cases outcome with
  | ok u => exact silent_log _ _ _
  | error failure => exact silent_log _ _ _

/-- The exchanges of killing a process: it is waited for only if the signal was delivered. -/
def killing (pid : UInt32) (kill : Except Kernel.Errno Unit)
    (reap : Except Kernel.Fault Kernel.Exit) : List Exchange :=
  ⟨.signal (Program.kernelPid pid) (some .kill), kill⟩ ::
    (if kill.isOk then [⟨.wait pid, reap⟩] else [])

def killed (pid : UInt32) (kill : Except Kernel.Errno Unit) : Except Program.Failure Unit :=
  kill.mapError fun errno => .signal pid errno.labelled

theorem performs_killing_iff {β : Type} {pid : UInt32} {b : β}
    {go : Except Program.Failure Unit → Procedure β} {f : Except Program.Failure Unit → β}
    (refused : ∀ failure, Silent (go (.error failure)) (f (.error failure)))
    (agreed : ∀ rest, (go (.ok ())).Performs rest b ↔
      ∃ reap, rest = [⟨.wait pid, reap⟩] ∧ b = f (.ok ())) :
    (Program.forceKill pid >>= go).Performs done b ↔
      ∃ kill reap, done = killing pid kill reap ∧ b = f (killed pid kill) := by
  rw [performs_bind_iff]
  constructor
  · rintro ⟨first, second, a, rfl, hkill, h⟩
    obtain ⟨kill, rfl, rfl⟩ := Program.performs_forceKill_iff.mp hkill
    cases kill with
    | error errno =>
      obtain ⟨rfl, rfl⟩ := (refused _ second b).mp h
      exact ⟨.error errno, .ok (.code 0), rfl, rfl⟩
    | ok u =>
      obtain ⟨reap, rfl, rfl⟩ := (agreed second).mp h
      exact ⟨.ok u, reap, rfl, rfl⟩
  · rintro ⟨kill, reap, rfl, rfl⟩
    have first : (Program.forceKill pid).Performs _ _ :=
      Program.performs_forceKill_iff.mpr ⟨kill, rfl, rfl⟩
    cases kill with
    | error errno => exact ⟨_, [], _, rfl, first, (refused _ [] _).mpr ⟨rfl, rfl⟩⟩
    | ok u => exact ⟨_, [⟨.wait pid, reap⟩], _, rfl, first, (agreed _).mpr ⟨reap, rfl, rfl⟩⟩

end Session

end HostEngine
