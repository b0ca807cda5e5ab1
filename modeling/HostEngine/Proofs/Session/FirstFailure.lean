import HostEngine.Proofs.Natives
import HostEngine.Proofs.Session.Reversal
import HostEngine.Proofs.Stages
import HostEngine.Proofs.Target
/-!
# The first failure is returned

The steps of a start, and those of a shutdown, are stages in a fixed order, each with one kind of
failure. What is returned is the failure of the first stage that fails (`Reports`), and this does not
depend on how cleaning up ends: `Outset.Fits` and `Closing.Fits` leave those replies open.
-/
set_option autoImplicit false

namespace HostEngine

namespace Session

open Procedure Machine.Natives

/-! ### The stages of a start -/

/-- How the steps of a start end, each as if it is taken. -/
structure Outset where
  load : Except String Native.Library
  find : Except String Octets
  reserve : Except Kernel.Fault Octets
  spawn : Except Kernel.Fault UInt32
  init : Except Native.Failure Unit
  opened : Except Native.Failure Native.Handle

theorem kind_of_make {mode : Mode} {args : List String} {failure : Failure}
    (refused : Plan.make mode args = .error failure) : failure.kind = .arguments := by
  cases mode with
  | embedded => cases refused
  | managedChild => cases refused
  | standalone =>
    simp only [Plan.make] at refused
    cases target : Target.ofArgs args with
    | ok target' =>
      rw [target] at refused
      cases refused
    | error other =>
      rw [target] at refused
      cases refused
      obtain ⟨message, rfl, -⟩ := Target.ofArgs_eq_error_iff.mp target
      rfl

def openStep : Mode → NativeStep
  | .embedded => .start
  | .standalone | .managedChild => .connect

def argumentsStage (mode : Mode) (args : List String) : Stage where
  kind := .arguments
  failure? := Stage.failureOf? id (Plan.make mode args)
  kind_eq failure fails := by
    cases planned : Plan.make mode args with
    | ok plan =>
      rw [planned] at fails
      cases fails
    | error other =>
      rw [planned] at fails
      cases fails
      exact kind_of_make planned

namespace Outset

/-- If the exchange is a step of a start, it ends like this; cleaning up may end in any way. -/
def Fits (outset : Outset) : Exchange → Prop
  | ⟨.load _, reply⟩ => reply = outset.load
  | ⟨.find _ _, reply⟩ => reply = outset.find
  | ⟨.reserve _ _, reply⟩ => reply = outset.reserve
  | ⟨.spawn _ _, reply⟩ => reply = outset.spawn
  | ⟨.call _ .init, reply⟩ => reply = outset.init
  | ⟨.call _ (.startEmbedded _), reply⟩ | ⟨.call _ (.connect _ _), reply⟩ => reply = outset.opened
  | _ => True

def executable (outset : Outset) : Octets := outset.find.toOption.getD []

/-- Finding the program; there is none with an empty name. -/
def findStage (outset : Outset) (options : ChildOptions) : Stage :=
  .ofReply .executableNotFound (.executableNotFound options.executable) (fun _ => rfl)
    (if options.executable.isEmpty then .error Program.emptyName.reason else outset.find)

def reserveStage (outset : Outset) (options : ChildOptions) : Stage :=
  .ofReply .scratchFile (.scratchFile options.scratchDirectory) (fun _ => rfl) outset.reserve

def spawnStage (outset : Outset) : Stage :=
  .ofReply .spawn (fun fault => .spawn outset.executable.shown fault.text) (fun _ => rfl)
    outset.spawn

def loadStage (outset : Outset) (options : Options) : Stage :=
  .ofReply .libraryNotFound (.libraryNotFound options.library) (fun _ => rfl) outset.load

def openStages (outset : Outset) (step : NativeStep) : List Stage :=
  [.native .init outset.init, .native step outset.opened]

/-- The stages of a start, in their order. -/
def stages (outset : Outset) (options : Options) (mode : Mode) (args : List String) : List Stage :=
  [argumentsStage mode args, outset.loadStage options] ++
  (if mode = .managedChild then
    [outset.findStage options.child, outset.reserveStage options.child, outset.spawnStage]
    else []) ++
  outset.openStages (openStep mode)

end Outset

/-! ### What a start returns -/

inductive Opens (library : Native.Library) :
    (Except Native.Failure Native.Handle → Exchange) → NativeStep → Prop
  | start : Opens library (startExchange library) .start
  | connect (target : Target) : Opens library (connectExchange library target) .connect

variable {outset : Outset} {library : Native.Library} {done : List Exchange}

theorem Opens.fits_iff {ask : Except Native.Failure Native.Handle → Exchange} {step : NativeStep}
    (opens : Opens library ask step) (reply : Except Native.Failure Native.Handle) :
    outset.Fits (ask reply) ↔ reply = outset.opened := by
  cases opens with
  | start => exact Iff.rfl
  | connect target => exact Iff.rfl

theorem Opening.reports {ask : Except Native.Failure Native.Handle → Exchange} {step : NativeStep}
    {result : Except Failure Native.Handle} (opens : Opens library ask step)
    (opening : Opening library ask step done result)
    (fits : ∀ exchange ∈ done, outset.Fits exchange) :
    Reports (outset.openStages step) result := by
  cases opening with
  | uninitialized failure =>
    have init : .error failure = outset.init := fits _ List.mem_cons_self
    exact .failed (Stage.fails init.symm)
  | unopened failure shutdown =>
    have init : .ok () = outset.init := fits _ List.mem_cons_self
    have opened : .error failure = outset.opened := (opens.fits_iff _).mp (fits _ (by simp))
    exact .passed (Stage.passes init.symm) (.failed (Stage.fails opened.symm))
  | opened handle =>
    have init : .ok () = outset.init := fits _ List.mem_cons_self
    have opened : .ok handle = outset.opened := (opens.fits_iff _).mp (fits _ (by simp))
    exact .passed (Stage.passes init.symm) (.passed (Stage.passes opened.symm) (.nil _))

/-- No path that was reserved holds a NUL, as no path of a file system does. -/
def NulFree (done : List Exchange) : Prop :=
  ∀ directory stem path, ⟨.reserve directory stem, .ok path⟩ ∈ done → path.hasNul = false

theorem Linking.reports {child : Child} {result : Except Failure Link}
    (nulFree : child.socketPath.hasNul = false) (linking : Linking library child done result)
    (fits : ∀ exchange ∈ done, outset.Fits exchange) :
    Reports (outset.openStages .connect) result := by
  cases linking with
  | unaddressed failure refused =>
    rw [Target.ofSocketPath_eq_ok nulFree] at refused
    cases refused
  | tried target _ opened addressed opening =>
    exact (opening.reports (.connect target) fits).map _

theorem Launching.reports {executable path : Octets} {result : Except Failure Connection}
    (nulFree : path.hasNul = false) (found : outset.executable = executable)
    (launching : Launching library executable path done result)
    (fits : ∀ exchange ∈ done, outset.Fits exchange) :
    Reports (outset.spawnStage :: outset.openStages .connect) result := by
  cases launching with
  | unspawned fault remove =>
    have spawned : .error fault = outset.spawn := fits _ List.mem_cons_self
    subst found
    exact .failed (Stage.fails spawned.symm)
  | aborted pid rest failure kill reap remove linking =>
    have spawned : .ok pid = outset.spawn := fits _ List.mem_cons_self
    have linked := linking.reports nulFree fun e member => fits e (by simp [member])
    have aborts := linked.map (fun link => Connection.managedChild link ⟨pid, executable, path⟩)
    exact .passed (Stage.passes spawned.symm) aborts
  | linked pid rest link linking =>
    have spawned : .ok pid = outset.spawn := fits _ List.mem_cons_self
    have linked := linking.reports nulFree fun e member => fits e (by simp [member])
    have connects := linked.map (fun link => Connection.managedChild link ⟨pid, executable, path⟩)
    exact .passed (Stage.passes spawned.symm) connects

theorem ChildStart.reports {options : ChildOptions} {result : Except Failure Connection}
    (nulFree : NulFree done) (start : ChildStart library options done result)
    (fits : ∀ exchange ∈ done, outset.Fits exchange) :
    Reports ([outset.findStage options, outset.reserveStage options, outset.spawnStage] ++
      outset.openStages .connect) result := by
  have sought (named : options.executable.isEmpty = false) :
      (if options.executable.isEmpty then .error Program.emptyName.reason else outset.find) =
        outset.find := if_neg (by simp [named])
  cases start with
  | unnamed empty => exact .failed (Stage.fails (if_pos empty))
  | unfound reason named =>
    have found : .error reason = outset.find := fits _ List.mem_cons_self
    exact .failed (Stage.fails ((sought named).trans found.symm))
  | unreserved executable fault named =>
    have found : .ok executable = outset.find := fits _ List.mem_cons_self
    have reserved : .error fault = outset.reserve :=
      fits _ (List.mem_cons_of_mem _ List.mem_cons_self)
    exact .passed (Stage.passes ((sought named).trans found.symm))
      (.failed (Stage.fails reserved.symm))
  | launched executable path rest _ named launching =>
    have found : .ok executable = outset.find := fits _ List.mem_cons_self
    have reserved : .ok path = outset.reserve :=
      fits _ (List.mem_cons_of_mem _ List.mem_cons_self)
    have same : outset.executable = executable := by
      rw [Outset.executable, ← found]
      rfl
    have pathFree : path.hasNul = false :=
      nulFree _ _ path (List.mem_cons_of_mem _ List.mem_cons_self)
    have launched := launching.reports pathFree same fun e member => fits e (by simp [member])
    exact .passed (Stage.passes ((sought named).trans found.symm))
      (.passed (Stage.passes reserved.symm) launched)

theorem Following.reports {options : ChildOptions} {plan : Plan}
    {result : Except Failure Connection} (nulFree : NulFree done)
    (following : Following library options plan done result)
    (fits : ∀ exchange ∈ done, outset.Fits exchange) :
    Reports ((if plan.mode = .managedChild then
      [outset.findStage options, outset.reserveStage options, outset.spawnStage] else []) ++
      outset.openStages (openStep plan.mode)) result := by
  cases following with
  | embedded _ opened opening => exact (opening.reports .start fits).map _
  | standalone target _ opened opening => exact (opening.reports (.connect target) fits).map _
  | managedChild _ _ childStart => exact childStart.reports nulFree fits

theorem Startup.reports {options : Options} {mode : Mode} {args : List String}
    {result : Except Failure Session} (nulFree : NulFree done)
    (startup : Startup options mode args done result)
    (fits : ∀ exchange ∈ done, outset.Fits exchange) :
    Reports (outset.stages options mode args) result := by
  have checked {plan : Plan} (planned : Plan.make mode args = .ok plan) :
      (argumentsStage mode args).failure? = none := congrArg (Stage.failureOf? id) planned
  unfold Outset.stages
  rw [List.append_assoc]
  cases startup with
  | refused failure unplanned => exact .failed (congrArg (Stage.failureOf? id) unplanned)
  | unloaded plan reason planned =>
    have loaded : .error reason = outset.load := fits _ List.mem_cons_self
    exact .passed (checked planned) (.failed (Stage.fails loaded.symm))
  | failed plan library rest failure unload planned following =>
    have loaded : .ok library = outset.load := fits _ List.mem_cons_self
    have follows := following.reports (fun d s path member => nulFree d s path (by simp [member]))
      fun e member => fits e (by simp [member])
    rw [Plan.mode_of_make planned] at follows
    have fails := follows.map fun connection => (⟨library, connection⟩ : Session)
    exact .passed (checked planned) (.passed (Stage.passes loaded.symm) fails)
  | started plan library rest connection planned following =>
    have loaded : .ok library = outset.load := fits _ List.mem_cons_self
    have follows := following.reports (fun d s path member => nulFree d s path (by simp [member]))
      fun e member => fits e (by simp [member])
    rw [Plan.mode_of_make planned] at follows
    have starts := follows.map fun connection => (⟨library, connection⟩ : Session)
    exact .passed (checked planned) (.passed (Stage.passes loaded.symm) starts)

/-! ### How the steps of a start ended -/

theorem Opening.exists_fits {ask : Except Native.Failure Native.Handle → Exchange}
    {step : NativeStep} {result : Except Failure Native.Handle} (opens : Opens library ask step)
    (opening : Opening library ask step done result) :
    ∃ init opened, ∀ outset : Outset, outset.init = init → outset.opened = opened →
      ∀ exchange ∈ done, outset.Fits exchange := by
  cases opening with
  | uninitialized failure =>
    refine ⟨.error failure, .ok ⟨0⟩, ?_⟩
    intro outset init opened
    rw [List.forall_mem_singleton]
    exact init.symm
  | unopened failure shutdown =>
    refine ⟨.ok (), .error failure, ?_⟩
    intro outset init opened
    rw [List.forall_mem_cons, List.forall_mem_cons, List.forall_mem_singleton]
    exact ⟨init.symm, (opens.fits_iff _).mpr opened.symm, trivial⟩
  | opened handle =>
    refine ⟨.ok (), .ok handle, ?_⟩
    intro outset init opened
    rw [List.forall_mem_cons, List.forall_mem_singleton]
    exact ⟨init.symm, (opens.fits_iff _).mpr opened.symm⟩

theorem Linking.exists_fits {child : Child} {result : Except Failure Link}
    (linking : Linking library child done result) :
    ∃ init opened, ∀ outset : Outset, outset.init = init → outset.opened = opened →
      ∀ exchange ∈ done, outset.Fits exchange := by
  cases linking with
  | unaddressed failure refused => exact ⟨.ok (), .ok ⟨0⟩, fun _ _ _ => List.forall_mem_nil _⟩
  | tried target _ opened addressed opening => exact opening.exists_fits (.connect target)

theorem fits_killing (outset : Outset) (pid : UInt32) (kill : Except Kernel.Errno Unit)
    (reap : Except Kernel.Fault Kernel.Exit) :
    ∀ exchange ∈ killing pid kill reap, outset.Fits exchange := by
  cases kill with
  | ok u => exact List.forall_mem_cons.mpr ⟨trivial, List.forall_mem_singleton.mpr trivial⟩
  | error errno => exact List.forall_mem_singleton.mpr trivial

theorem Launching.exists_fits {executable path : Octets} {result : Except Failure Connection}
    (launching : Launching library executable path done result) :
    ∃ spawn init opened, ∀ outset : Outset, outset.spawn = spawn → outset.init = init →
      outset.opened = opened → ∀ exchange ∈ done, outset.Fits exchange := by
  cases launching with
  | unspawned fault remove =>
    refine ⟨.error fault, .ok (), .ok ⟨0⟩, ?_⟩
    intro outset spawn init opened
    rw [List.forall_mem_cons, List.forall_mem_singleton]
    exact ⟨spawn.symm, trivial⟩
  | aborted pid rest failure kill reap remove linking =>
    obtain ⟨init', opened', links⟩ := linking.exists_fits
    refine ⟨.ok pid, init', opened', ?_⟩
    intro outset spawn init opened
    rw [List.forall_mem_cons, List.forall_mem_append, List.forall_mem_append,
      List.forall_mem_singleton]
    exact ⟨spawn.symm, links outset init opened, fits_killing outset pid kill reap, trivial⟩
  | linked pid rest link linking =>
    obtain ⟨init', opened', links⟩ := linking.exists_fits
    refine ⟨.ok pid, init', opened', ?_⟩
    intro outset spawn init opened
    rw [List.forall_mem_cons]
    exact ⟨spawn.symm, links outset init opened⟩

theorem ChildStart.exists_fits {options : ChildOptions} {result : Except Failure Connection}
    (start : ChildStart library options done result) (load : Except String Native.Library) :
    ∃ outset : Outset, outset.load = load ∧ ∀ exchange ∈ done, outset.Fits exchange := by
  cases start with
  | unnamed empty =>
    exact ⟨⟨load, .ok [], .ok [], .ok 0, .ok (), .ok ⟨0⟩⟩, rfl, List.forall_mem_nil _⟩
  | unfound reason named =>
    refine ⟨⟨load, .error reason, .ok [], .ok 0, .ok (), .ok ⟨0⟩⟩, rfl, ?_⟩
    exact List.forall_mem_singleton.mpr rfl
  | unreserved executable fault named =>
    refine ⟨⟨load, .ok executable, .error fault, .ok 0, .ok (), .ok ⟨0⟩⟩, rfl, ?_⟩
    exact List.forall_mem_cons.mpr ⟨rfl, List.forall_mem_singleton.mpr rfl⟩
  | launched executable path rest _ named launching =>
    obtain ⟨spawn, init, opened, launches⟩ := launching.exists_fits
    refine ⟨⟨load, .ok executable, .ok path, spawn, init, opened⟩, rfl, ?_⟩
    rw [List.forall_mem_cons, List.forall_mem_cons]
    exact ⟨rfl, rfl, launches _ rfl rfl rfl⟩

theorem Following.exists_fits {options : ChildOptions} {plan : Plan}
    {result : Except Failure Connection}
    (following : Following library options plan done result) (load : Except String Native.Library) :
    ∃ outset : Outset, outset.load = load ∧ ∀ exchange ∈ done, outset.Fits exchange := by
  cases following with
  | embedded _ reply opening =>
    obtain ⟨init, opened, opens⟩ := opening.exists_fits .start
    exact ⟨⟨load, .ok [], .ok [], .ok 0, init, opened⟩, rfl, opens _ rfl rfl⟩
  | standalone target _ reply opening =>
    obtain ⟨init, opened, opens⟩ := opening.exists_fits (.connect target)
    exact ⟨⟨load, .ok [], .ok [], .ok 0, init, opened⟩, rfl, opens _ rfl rfl⟩
  | managedChild _ _ childStart => exact childStart.exists_fits load

theorem Startup.exists_fits {options : Options} {mode : Mode} {args : List String}
    {result : Except Failure Session} (startup : Startup options mode args done result) :
    ∃ outset : Outset, ∀ exchange ∈ done, outset.Fits exchange := by
  cases startup with
  | refused failure unplanned =>
    exact ⟨⟨.error "", .ok [], .ok [], .ok 0, .ok (), .ok ⟨0⟩⟩, List.forall_mem_nil _⟩
  | unloaded plan reason planned =>
    refine ⟨⟨.error reason, .ok [], .ok [], .ok 0, .ok (), .ok ⟨0⟩⟩, ?_⟩
    exact List.forall_mem_singleton.mpr rfl
  | failed plan library rest failure unload planned following =>
    obtain ⟨outset, loaded, follows⟩ := following.exists_fits (.ok library)
    refine ⟨outset, ?_⟩
    rw [List.cons_append, List.forall_mem_cons, List.forall_mem_append, List.forall_mem_singleton]
    exact ⟨loaded.symm, follows, trivial⟩
  | started plan library rest connection planned following =>
    obtain ⟨outset, loaded, follows⟩ := following.exists_fits (.ok library)
    exact ⟨outset, List.forall_mem_cons.mpr ⟨loaded.symm, follows⟩⟩

/-! ### What a shutdown returns -/

namespace Closing

/-- If the exchange is a step of a shutdown, it ends like this; cleaning up may end in any way. -/
def Fits (closing : Closing) : Exchange → Prop
  | ⟨.call _ (.stopEmbedded _), reply⟩ | ⟨.call _ (.disconnect _), reply⟩ => reply = closing.close
  | ⟨.call _ .shutdown, reply⟩ => reply = closing.shutdown
  | ⟨.runToEnd _ _, reply⟩ => reply = closing.terminate
  | ⟨.signal _ _, reply⟩ => reply = closing.kill
  | _ => True

def terminateStage (closing : Closing) (child : Child) : Stage :=
  .ofReply .terminationCommand
    (fun failure => .terminationCommand child.executable.shown failure.reason) (fun _ => rfl)
    (Program.verdict child.executable closing.terminate)

def killStage (closing : Closing) (child : Child) : Stage :=
  .ofReply .forceKill (fun failure => .forceKill child.pid failure.reason) (fun _ => rfl)
    (killed child.pid closing.kill)

/-- The stages of a shutdown, in their order. -/
def stages (closing : Closing) (session : Session) : List Stage :=
  [.native session.closeStep closing.close, .native .shutdown closing.shutdown] ++
  match session.child? with
  | none => []
  | some child => [closing.terminateStage child, closing.killStage child]

end Closing

variable {session : Session} {actual closing : Closing}

theorem fits_closeExchange_iff (reply : Except Native.Failure Unit) :
    closing.Fits (session.closeExchange reply) ↔ reply = closing.close := by
  obtain ⟨library, connection⟩ := session
  cases connection with
  | embedded handle => exact Iff.rfl
  | standalone link => exact Iff.rfl
  | managedChild link child => exact Iff.rfl

theorem fits_teardown (closing : Closing) (session : Session) :
    ∀ exchange ∈ session.teardown closing, closing.Fits exchange := by
  have lowers : ∀ exchange ∈ session.lowering closing, closing.Fits exchange := by
    apply forall_mem_lowering
    · exact (fits_closeExchange_iff _).mpr rfl
    · exact rfl
    · intro child _
      exact ⟨forall_mem_dismissal rfl rfl trivial, trivial⟩
  unfold teardown
  rw [List.forall_mem_append, List.forall_mem_singleton]
  exact ⟨lowers, trivial⟩

theorem reports_dismissed {child : Child} (down : actual.isDown = true)
    (fits : ∀ exchange ∈ dismissal child actual, closing.Fits exchange) :
    Reports [closing.terminateStage child, closing.killStage child]
      (dismissed child actual.terminate actual.kill) := by
  rw [dismissal_of_isDown down, List.forall_mem_cons] at fits
  obtain ⟨asks, kills⟩ := fits
  have asked : actual.terminate = closing.terminate := asks
  have agreed := Program.isOk_verdict child.executable actual.terminate
  unfold dismissed
  cases said : Program.verdict child.executable actual.terminate with
  | error failure =>
    rw [asked] at said
    exact .failed (Stage.fails said)
  | ok u =>
    rw [said] at agreed
    have killed : actual.kill = closing.kill := by
      rw [← agreed] at kills
      exact kills _ List.mem_cons_self
    rw [asked] at said
    refine .passed (Stage.passes said) ?_
    unfold Closing.killStage
    rw [← killed]
    cases actual.kill with
    | error errno => exact .failed rfl
    | ok u => exact .passed rfl (.nil ())

theorem reports_outcome (fits : ∀ exchange ∈ session.teardown actual, closing.Fits exchange) :
    Reports (closing.stages session) (session.outcome actual) := by
  unfold teardown lowering at fits
  rw [List.forall_mem_append, List.forall_mem_append, List.forall_mem_append,
    List.forall_mem_singleton] at fits
  obtain ⟨⟨⟨closes, shuts⟩, bereaves⟩, -⟩ := fits
  have closed := (fits_closeExchange_iff _).mp closes
  unfold Closing.stages outcome parted
  cases close : actual.close with
  | error failure =>
    rw [close] at closed
    exact .failed (Stage.fails closed.symm)
  | ok u =>
    rw [close] at closed shuts
    refine .passed (Stage.passes closed.symm) ?_
    have down : actual.shutdown = closing.shutdown := shuts _ (List.mem_singleton.mpr rfl)
    cases shutdown : actual.shutdown with
    | error failure =>
      rw [shutdown] at down
      exact .failed (Stage.fails down.symm)
    | ok u =>
      rw [shutdown] at down
      refine .passed (Stage.passes down.symm) ?_
      have isDown : actual.isDown = true := by
        rw [Closing.isDown, close, shutdown]
        rfl
      unfold bereaving at bereaves
      cases own : session.child? with
      | none => exact .nil ()
      | some child =>
        rw [own] at bereaves
        exact reports_dismissed isDown fun e member => bereaves e (List.mem_append_left _ member)

/-! ### Failed calls -/

def stepOf : Native.Call.Function → NativeStep
  | .init => .init
  | .shutdown => .shutdown
  | .startEmbedded => .start
  | .stopEmbedded => .stop
  | .connect => .connect
  | .disconnect => .disconnect

def CallFailed (done : List Exchange) (step : NativeStep) (failure : Native.Failure) : Prop :=
  ∃ library call, stepOf call.function = step ∧ .called library call (.error failure) ∈ done

theorem CallFailed.mono {first second : List Exchange} {step : NativeStep}
    {failure : Native.Failure} (failed : CallFailed first step failure)
    (among : ∀ exchange ∈ first, exchange ∈ second) : CallFailed second step failure := by
  obtain ⟨library, call, same, member⟩ := failed
  exact ⟨library, call, same, among _ member⟩

variable {step : NativeStep} {native : Native.Failure}

theorem Opening.callFailed {ask : Except Native.Failure Native.Handle → Exchange}
    {opener : NativeStep} (opens : Opens library ask opener)
    (opening : Opening library ask opener done (.error (.native step native))) :
    CallFailed done step native := by
  cases opening with
  | uninitialized => exact ⟨library, .init, rfl, List.mem_cons_self⟩
  | unopened _ shutdown =>
    cases opens with
    | start => exact ⟨library, .startEmbedded .automatic, rfl, by simp [startExchange]⟩
    | connect target => exact ⟨library, .connect target.octets (.ofFlag target.flag), rfl,
      by simp [connectExchange]⟩

theorem Linking.callFailed {child : Child}
    (linking : Linking library child done (.error (.native step native))) :
    CallFailed done step native := by
  generalize result : Except.error (Failure.native step native) = linked at linking
  cases linking with
  | unaddressed failure refused =>
    cases result
    obtain ⟨-, other⟩ := Target.ofSocketPath_eq_error_iff.mp refused
    cases other
  | tried target _ opened addressed opening =>
    cases opened with
    | ok handle => cases result
    | error failure =>
      cases result
      exact opening.callFailed (.connect target)

theorem ChildStart.callFailed {options : ChildOptions}
    (start : ChildStart library options done (.error (.native step native))) :
    CallFailed done step native := by
  cases start with
  | launched executable path rest _ named launching =>
    cases launching with
    | aborted pid rest _ kill reap remove linking =>
      exact linking.callFailed.mono fun exchange member => by simp [member]

theorem Following.callFailed {options : ChildOptions} {plan : Plan}
    (following : Following library options plan done (.error (.native step native))) :
    CallFailed done step native := by
  generalize result : Except.error (Failure.native step native) = connected at following
  cases following with
  | embedded _ opened opening =>
    cases opened with
    | ok handle => cases result
    | error failure =>
      cases result
      exact opening.callFailed .start
  | standalone target _ opened opening =>
    cases opened with
    | ok handle => cases result
    | error failure =>
      cases result
      exact opening.callFailed (.connect target)
  | managedChild _ _ childStart =>
    cases result
    exact childStart.callFailed

theorem Startup.callFailed {options : Options} {mode : Mode} {args : List String}
    (startup : Startup options mode args done (.error (.native step native))) :
    CallFailed done step native := by
  cases startup with
  | refused _ unplanned => cases kind_of_make unplanned
  | failed plan library rest _ unload planned following =>
    exact following.callFailed.mono fun exchange member => by simp [member]

theorem kind_of_dismissed {child : Child} {asked : Except Kernel.Fault Kernel.Exit}
    {kill : Except Kernel.Errno Unit} {failure : Failure}
    (fails : dismissed child asked kill = .error failure) :
    failure.kind = .terminationCommand ∨ failure.kind = .forceKill := by
  unfold dismissed at fails
  cases said : Program.verdict child.executable asked with
  | error reason =>
    rw [said] at fails
    cases fails
    exact .inl rfl
  | ok u =>
    rw [said] at fails
    cases kill with
    | error errno =>
      cases fails
      exact .inr rfl
    | ok u => cases fails

theorem callFailed_of_outcome {closing : Closing}
    (fails : session.outcome closing = .error (.native step native)) :
    CallFailed (session.teardown closing) step native := by
  have closes : session.closeExchange closing.close ∈ session.teardown closing := by
    simp [teardown, lowering]
  unfold outcome parted at fails
  cases close : closing.close with
  | error failure =>
    rw [close] at fails closes
    cases fails
    obtain ⟨library, connection⟩ := session
    cases connection with
    | embedded handle => exact ⟨_, _, rfl, closes⟩
    | standalone link => exact ⟨_, _, rfl, closes⟩
    | managedChild link child => exact ⟨_, _, rfl, closes⟩
  | ok u =>
    rw [close] at fails
    cases shutdown : closing.shutdown with
    | error failure =>
      rw [shutdown] at fails
      cases fails
      refine ⟨session.library, .shutdown, rfl, ?_⟩
      simp [teardown, lowering, close, shutdown, Except.isOk, Except.toBool]
    | ok u =>
      rw [shutdown] at fails
      cases own : session.child? with
      | none =>
        rw [own] at fails
        cases fails
      | some child =>
        rw [own] at fails
        rcases kind_of_dismissed fails with kind | kind <;> cases kind

/-! ### The whole -/

/-- The calls of libraries end as those of library files do. -/
def FromFiles (done : List Exchange) : Prop :=
  ∀ library call answer, .called library call answer ∈ done →
    ∃ handle codes descriptions,
      answer = reply (.files handle codes descriptions) call

/-- A failure of a native step is the one of its call. Where libraries are files, it carries the status
that the function returned, which is not zero, and the library's description of that. -/
def Faithful (done : List Exchange) (step : NativeStep) (failure : Native.Failure) : Prop :=
  CallFailed done step failure ∧
  (FromFiles done → ∃ library call handle codes descriptions,
    stepOf call.function = step ∧
    .called library call (reply (.files handle codes descriptions) call) ∈ done ∧
    (returned codes call).isOk = false ∧ failure.code = (returned codes call).code ∧
    failure.message = (returned codes call).wording (described descriptions (returned codes call)))

theorem CallFailed.faithful {failure : Native.Failure} (failed : CallFailed done step failure) :
    Faithful done step failure := by
  refine ⟨failed, fun fromFiles => ?_⟩
  obtain ⟨library, call, same, member⟩ := failed
  obtain ⟨handle, codes, descriptions, replied⟩ := fromFiles library call _ member
  obtain ⟨bad, rfl⟩ := reply_files_eq_error_iff.mp replied.symm
  exact ⟨library, call, handle, codes, descriptions, same, replied ▸ member, bad, rfl, rfl⟩

/-- What is returned by something that goes through stages: its steps end in some way, and however
else it goes, the first failure among them is returned as it is. -/
structure FirstFailureReturned {O α : Type} (fits : O → Exchange → Prop) (stages : O → List Stage)
    (done : List Exchange) (result : Except Failure α) : Prop where
  ends : ∃ outcomes, ∀ exchange ∈ done, fits outcomes exchange
  reports : ∀ outcomes, (∀ exchange ∈ done, fits outcomes exchange) →
    Reports (stages outcomes) result
  ne_unload : ∀ library reason, result ≠ .error (.libraryUnload library reason)
  native : ∀ failure native, result = .error failure → failure.native? = some native →
    ∃ step, failure = .native step native ∧ Faithful done step native

theorem eq_native_of_native? {failure : Failure} {native : Native.Failure}
    (is : failure.native? = some native) : ∃ step, failure = .native step native := by
  cases failure with
  | native step other =>
    cases is
    exact ⟨step, rfl⟩
  | _ => cases is

theorem ne_unload_of_reports {α : Type} {stages : List Stage} {result : Except Failure α}
    (kinds : ∀ stage ∈ stages, stage.kind ≠ .libraryUnload) (reports : Reports stages result)
    (library reason : String) : result ≠ .error (.libraryUnload library reason) := by
  rintro rfl
  obtain ⟨stage, member, kind⟩ := reports.exists_kind
  exact kinds stage member kind.symm

theorem Outset.kind_ne_unload (outset : Outset) (options : Options) (mode : Mode)
    (args : List String) :
    ∀ stage ∈ outset.stages options mode args, stage.kind ≠ .libraryUnload := by
  have opens (step : NativeStep) : ∀ stage ∈ outset.openStages step, stage.kind ≠ .libraryUnload := by
    simp [openStages, Stage.native, Stage.ofReply]
  have begins : ∀ stage ∈ [argumentsStage mode args, outset.loadStage options],
      stage.kind ≠ .libraryUnload := by
    simp [argumentsStage, loadStage, Stage.ofReply]
  unfold stages
  rw [List.forall_mem_append, List.forall_mem_append]
  refine ⟨⟨begins, ?_⟩, opens _⟩
  by_cases managed : mode = .managedChild
  · simp [managed, findStage, reserveStage, spawnStage, Stage.ofReply]
  · simp [managed]

theorem Closing.kind_ne_unload (closing : Closing) (session : Session) :
    ∀ stage ∈ closing.stages session, stage.kind ≠ .libraryUnload := by
  unfold stages
  rw [List.forall_mem_append]
  constructor
  · simp [Stage.native, Stage.ofReply]
  · cases session.child? with
    | none => exact List.forall_mem_nil _
    | some child => simp [terminateStage, killStage, Stage.ofReply]

theorem Startup.firstFailureReturned {options : Options} {mode : Mode} {args : List String}
    {result : Except Failure Session} (nulFree : NulFree done)
    (startup : Startup options mode args done result) :
    FirstFailureReturned Outset.Fits (·.stages options mode args) done result where
  ends := startup.exists_fits
  reports outset fits := startup.reports nulFree fits
  ne_unload := by
    obtain ⟨outset, fits⟩ := startup.exists_fits
    exact ne_unload_of_reports (outset.kind_ne_unload options mode args)
      (startup.reports nulFree fits)
  native := by
    rintro failure native rfl is
    obtain ⟨step, rfl⟩ := eq_native_of_native? is
    exact ⟨step, rfl, startup.callFailed.faithful⟩

theorem firstFailureReturned_teardown (session : Session) (actual : Closing) :
    FirstFailureReturned Closing.Fits (·.stages session) (session.teardown actual)
      (session.outcome actual) where
  ends := ⟨actual, fits_teardown actual session⟩
  reports closing fits := reports_outcome fits
  ne_unload := ne_unload_of_reports (actual.kind_ne_unload session)
    (reports_outcome (fits_teardown actual session))
  native := by
    intro failure native fails is
    obtain ⟨step, rfl⟩ := eq_native_of_native? is
    exact ⟨step, rfl, (callFailed_of_outcome fails).faithful⟩

/-- A start returns the failure of its first step that fails, in the order of `Outset.stages`, and so
does a shutdown of any session, in the order of `Closing.stages`. -/
theorem first_failure_returned {options : Options} {mode : Mode} {args : List String}
    {session : Session} {starting stopping : List Exchange} {started : Except Failure Session}
    {stopped : Except Failure Unit}
    (starts : Yields (start options mode args) starting started)
    (nulFree : NulFree (effects starting)) (stops : Yields session.shutdown stopping stopped) :
    FirstFailureReturned Outset.Fits (·.stages options mode args) (effects starting) started ∧
      FirstFailureReturned Closing.Fits (·.stages session) (effects stopping) stopped := by
  have startup := performs_start_iff.mp starts.performs
  obtain ⟨closing, same, rfl⟩ := performs_shutdown_iff.mp stops.performs
  rw [same]
  exact ⟨startup.firstFailureReturned nulFree, firstFailureReturned_teardown session closing⟩

/-- A child is started but refuses the connection, and nothing can be cleaned up after that. A session
with another child refuses to be disconnected. -/
theorem first_failure_returned_of_child :
    let refusal : Native.Failure := ⟨-21, "refused"⟩
    let session : Session :=
      ⟨⟨0, Native.defaultLibrary⟩, .managedChild ⟨⟨7⟩, ⟨[46], 1, rfl⟩⟩ ⟨42, [47], [46]⟩⟩
    ∃ starting stopping,
      Yields (start .default .managedChild []) starting (.error (.native .connect refusal)) ∧
      Yields session.shutdown stopping (.error (.native .disconnect refusal)) ∧
      FirstFailureReturned Outset.Fits (·.stages .default .managedChild []) (effects starting)
        (.error (.native .connect refusal) : Except Failure Session) ∧
      FirstFailureReturned Closing.Fits (·.stages session) (effects stopping)
        (.error (.native .disconnect refusal) : Except Failure Unit) := by
  intro refusal session
  have linking : Linking session.library ⟨43, [47], [47]⟩ _ (.error (.native .connect refusal)) :=
    .tried ⟨[47], 1, rfl⟩ _ (.error (.native .connect refusal)) rfl
      (.unopened refusal (.error refusal))
  have startup : Startup .default .managedChild [] _ (.error (.native .connect refusal)) :=
    .failed .managedChild session.library _ _ (.error "busy") rfl (.managedChild _ _
      (.launched [47] [47] _ _ rfl (.aborted 43 _ _ (.error .notPermitted) (.ok (.code 0))
        (.error (.system .isDirectory)) linking)))
  obtain ⟨starting, starts, started⟩ := performs_start_iff.mpr startup
  have refused : session.shutdown.Performs _ (.error (.native .disconnect refusal)) :=
    performs_shutdown_iff.mpr ⟨{ Closing.smooth with close := .error refusal }, rfl, rfl⟩
  obtain ⟨stopping, stops, -⟩ := refused
  have nulFree : NulFree (effects starting) := by
    rw [started]
    intro directory stem path member
    simp [killing, connectExchange, Except.isOk, Except.toBool] at member
    simp [member, Octets.hasNul]
  exact ⟨starting, stopping, starts, stops, first_failure_returned starts nulFree stops⟩

end Session

end HostEngine
