import HostEngine.Proofs.Session.Steps
/-!
# What a shutdown does

`Session.teardown` lists the exchanges of a shutdown for any way its steps can end, each step with
the condition under which it is taken. A shutdown makes exactly these lists
(`performs_shutdown_iff`), and every way is possible. Dropping a session lets go of the library and
removes the socket path, and that is all.
-/
set_option autoImplicit false

namespace HostEngine.Session

open Procedure

/-- How the steps of a shutdown end, each as if it is taken. -/
structure Closing where
  close : Except Native.Failure Unit
  shutdown : Except Native.Failure Unit
  terminate : Except Kernel.Fault Kernel.Exit
  kill : Except Kernel.Errno Unit
  reap : Except Kernel.Fault Kernel.Exit
  remove : Except Kernel.Fault Unit
  unload : Except String Unit

namespace Closing

def smooth : Closing := ⟨.ok (), .ok (), .ok (.code 0), .ok (), .ok (.code 0), .ok (), .ok ()⟩

/-- Whether the connection was closed and the library shut down. -/
def isDown (closing : Closing) : Bool := closing.close.isOk && closing.shutdown.isOk

/-- Whether, after that, the program reported that it asked its engine to terminate. -/
def isAsked (closing : Closing) : Bool := closing.isDown && Program.succeeded closing.terminate

/-- Whether, after that, the child was killed. -/
def isKilled (closing : Closing) : Bool := closing.isAsked && closing.kill.isOk

end Closing

/-- The exchange that closes a session's connection: an embedded engine is stopped, any other is
disconnected from, by the session's handle. -/
def closeExchange (session : Session) (reply : Except Native.Failure Unit) : Exchange :=
  match session.connection with
  | .embedded handle => .called session.library (.stopEmbedded handle) reply
  | .standalone link | .managedChild link _ =>
    .called session.library (.disconnect link.handle) reply

/-- The exchanges that end a child, each with the condition under which it is made. -/
def dismissal (child : Child) (closing : Closing) : List Exchange :=
  (if closing.isDown then
    [⟨.runToEnd child.executable [.ofString terminateArgument], closing.terminate⟩] else []) ++
  (if closing.isAsked then
    [⟨.signal (Program.kernelPid child.pid) (some .kill), closing.kill⟩] else []) ++
  (if closing.isKilled then [⟨.wait child.pid, closing.reap⟩] else [])

/-- The exchanges that end a session's child, if it has one. The socket path is removed in any
case. -/
def bereaving (session : Session) (closing : Closing) : List Exchange :=
  match session.child? with
  | none => []
  | some child => dismissal child closing ++ [⟨.remove child.socketPath, closing.remove⟩]

/-- The exchanges of taking a session's connection down, in order, each with its condition. -/
def lowering (session : Session) (closing : Closing) : List Exchange :=
  [session.closeExchange closing.close] ++
  (if closing.close.isOk then [.called session.library .shutdown closing.shutdown] else []) ++
  session.bereaving closing

/-- The exchanges of a shutdown: the library is closed last, and in any case. -/
def teardown (session : Session) (closing : Closing) : List Exchange :=
  session.lowering closing ++ [⟨.unload session.library, closing.unload⟩]

def closeStep (session : Session) : NativeStep :=
  match session.connection with
  | .embedded _ => .stop
  | .standalone _ | .managedChild _ _ => .disconnect

def forceKilled (child : Child) (kill : Except Program.Failure Unit) : Except Failure Unit :=
  kill.mapError fun failure => .forceKill child.pid failure.reason

/-- What comes of ending a child: the first failure of asking and killing it. -/
def dismissed (child : Child) (asked : Except Kernel.Fault Kernel.Exit)
    (kill : Except Kernel.Errno Unit) : Except Failure Unit :=
  ((Program.verdict child.executable asked).mapError fun failure =>
    .terminationCommand child.executable.shown failure.reason) >>= fun _ =>
  forceKilled child (killed child.pid kill)

/-- What comes of closing a connection and shutting the library down: the first failure. -/
def parted (step : NativeStep) (close shutdown : Except Native.Failure Unit) :
    Except Failure Unit :=
  close.mapError (.native step) >>= fun _ => shutdown.mapError (.native .shutdown)

/-- What comes of a shutdown: the first failure of a step that is not mere cleaning up. -/
def outcome (session : Session) (closing : Closing) : Except Failure Unit :=
  parted session.closeStep closing.close closing.shutdown >>= fun _ =>
  match session.child? with
  | none => .ok ()
  | some child => dismissed child closing.terminate closing.kill

/-! ### All exchanges of a shutdown -/

section

variable {P : Exchange → Prop} {closing : Closing}

theorem forall_mem_ite {taken : Bool} {exchange : Exchange} (holds : P exchange) :
    ∀ other ∈ (if taken then [exchange] else []), P other := by
  cases taken with
  | true => exact List.forall_mem_singleton.mpr holds
  | false => exact List.forall_mem_nil _

theorem forall_mem_dismissal {child : Child}
    (asks : P ⟨.runToEnd child.executable [.ofString terminateArgument], closing.terminate⟩)
    (kills : P ⟨.signal (Program.kernelPid child.pid) (some .kill), closing.kill⟩)
    (reaps : P ⟨.wait child.pid, closing.reap⟩) :
    ∀ exchange ∈ dismissal child closing, P exchange := by
  unfold dismissal
  rw [List.forall_mem_append, List.forall_mem_append]
  exact ⟨⟨forall_mem_ite asks, forall_mem_ite kills⟩, forall_mem_ite reaps⟩

theorem forall_mem_lowering {session : Session}
    (closes : P (session.closeExchange closing.close))
    (shuts : P (.called session.library .shutdown closing.shutdown))
    (bereaves : ∀ child, session.child? = some child →
      (∀ exchange ∈ dismissal child closing, P exchange) ∧
        P ⟨.remove child.socketPath, closing.remove⟩) :
    ∀ exchange ∈ session.lowering closing, P exchange := by
  have bereaving : ∀ exchange ∈ session.bereaving closing, P exchange := by
    unfold bereaving
    cases held : session.child? with
    | none => exact List.forall_mem_nil _
    | some child =>
      rw [List.forall_mem_append, List.forall_mem_singleton]
      exact bereaves child held
  unfold lowering
  rw [List.forall_mem_append, List.forall_mem_append, List.forall_mem_singleton]
  exact ⟨⟨closes, forall_mem_ite shuts⟩, bereaving⟩

end

/-! ### The procedures of a shutdown -/

variable {done : List Exchange} {result : Except Failure Unit}

theorem performs_parting_iff {library : Native.Library} {ask : Except Native.Failure Unit → Exchange}
    {step : NativeStep} {parting : Procedure (Except Failure Unit)}
    {go : Except Native.Failure Unit → Procedure (Except Failure Unit)}
    (asks : parting.Performs done result ↔
      ∃ reply rest, done = ask reply :: rest ∧ (go reply).Performs rest result)
    (refused : ∀ failure, Silent (go (.error failure)) (.error (.native step failure)))
    (agreed : ∀ rest, (go (.ok ())).Performs rest result ↔
      (shutdownLibrary library).Performs rest result) :
    parting.Performs done result ↔
      ∃ close shutdown : Except Native.Failure Unit,
        done = ask close :: (if close.isOk then [.called library .shutdown shutdown] else []) ∧
        result = parted step close shutdown := by
  rw [asks]
  constructor
  · rintro ⟨reply, rest, rfl, h⟩
    cases reply with
    | error failure =>
      obtain ⟨rfl, rfl⟩ := (refused failure rest result).mp h
      exact ⟨.error failure, .ok (), rfl, rfl⟩
    | ok u =>
      obtain ⟨shutdown, rfl, rfl⟩ := performs_shutdownLibrary_iff.mp ((agreed rest).mp h)
      exact ⟨.ok u, shutdown, rfl, rfl⟩
  · rintro ⟨close, shutdown, rfl, rfl⟩
    cases close with
    | error failure => exact ⟨.error failure, [], rfl, (refused failure _ _).mpr ⟨rfl, rfl⟩⟩
    | ok u =>
      have down : (shutdownLibrary library).Performs _ _ :=
        performs_shutdownLibrary_iff.mpr ⟨shutdown, rfl, rfl⟩
      exact ⟨.ok u, _, rfl, (agreed _).mpr down⟩

theorem performs_stopEmbedded_iff {library : Native.Library} {handle : Native.Handle} :
    (stopEmbedded library handle).Performs done result ↔
      ∃ close shutdown : Except Native.Failure Unit,
        done = .called library (.stopEmbedded handle) close ::
          (if close.isOk then [.called library .shutdown shutdown] else []) ∧
        result = parted .stop close shutdown :=
  performs_parting_iff performs_ask_iff (fun _ => silent_pure _)
    fun _ => (silent_log _ _ _).performs_bind_iff

theorem performs_disconnect_iff {library : Native.Library} {link : Link} :
    (disconnect library link).Performs done result ↔
      ∃ close shutdown : Except Native.Failure Unit,
        done = .called library (.disconnect link.handle) close ::
          (if close.isOk then [.called library .shutdown shutdown] else []) ∧
        result = parted .disconnect close shutdown :=
  performs_parting_iff performs_ask_iff (fun _ => silent_pure _)
    fun _ => (silent_log _ _ _).performs_bind_iff

theorem performs_terminate_iff {child : Child} :
    (terminate child).Performs done result ↔
      ∃ asked kill reap,
        done = ⟨.runToEnd child.executable [.ofString terminateArgument], asked⟩ ::
          (if Program.succeeded asked then killing child.pid kill reap else []) ∧
        result = dismissed child asked kill := by
  unfold terminate
  rw [performs_bind_iff]
  constructor
  · rintro ⟨first, second, verdict, rfl, hask, h⟩
    obtain ⟨asked, rfl, rfl⟩ := Program.performs_runToEnd_iff.mp hask
    have agreed := Program.isOk_verdict child.executable asked
    unfold dismissed
    cases said : Program.verdict child.executable asked with
    | error failure =>
      rw [said] at h agreed
      obtain ⟨rfl, rfl⟩ := (silent_pure _ _ _).mp h
      exact ⟨asked, .ok (), .ok (.code 0), by rw [← agreed]; rfl, by rw [said]; rfl⟩
    | ok u =>
      rw [said] at h agreed
      rw [(silent_log _ _ _).performs_bind_iff] at h
      obtain ⟨kill, reap, rfl, rfl⟩ :=
        (performs_killing_iff (f := forceKilled child) (fun _ => silent_pure _)
          fun _ => performs_reap_bind_iff).mp h
      exact ⟨asked, kill, reap, by rw [← agreed]; rfl, by rw [said]; rfl⟩
  · rintro ⟨asked, kill, reap, rfl, rfl⟩
    have asks : (Program.runToEnd child.executable [.ofString terminateArgument]).Performs _ _ :=
      Program.performs_runToEnd_iff.mpr ⟨asked, rfl, rfl⟩
    refine ⟨_, _, _, rfl, asks, ?_⟩
    rw [← Program.isOk_verdict child.executable asked]
    unfold dismissed
    cases Program.verdict child.executable asked with
    | error failure => exact (silent_pure _ _ _).mpr ⟨rfl, rfl⟩
    | ok u =>
      rw [(silent_log _ _ _).performs_bind_iff]
      exact (performs_killing_iff (f := forceKilled child) (fun _ => silent_pure _)
        fun _ => performs_reap_bind_iff).mpr ⟨kill, reap, rfl, rfl⟩

theorem dismissal_of_isDown {child : Child} {closing : Closing} (down : closing.isDown = true) :
    dismissal child closing =
      ⟨.runToEnd child.executable [.ofString terminateArgument], closing.terminate⟩ ::
        (if Program.succeeded closing.terminate then
          killing child.pid closing.kill closing.reap else []) := by
  unfold dismissal Closing.isKilled Closing.isAsked killing
  rw [down]
  cases Program.succeeded closing.terminate <;> rfl

theorem dismissal_of_not_isDown {child : Child} {closing : Closing}
    (up : closing.isDown = false) : dismissal child closing = [] := by
  unfold dismissal Closing.isKilled Closing.isAsked
  rw [up]
  rfl

theorem isOk_parted (step : NativeStep) (close shutdown : Except Native.Failure Unit) :
    (parted step close shutdown).isOk = (close.isOk && shutdown.isOk) := by
  unfold parted
  cases close with
  | error failure => rfl
  | ok u => cases shutdown <;> rfl

theorem performs_disconnectChild_iff {library : Native.Library} {link : Link} {child : Child} :
    (disconnectChild library link child).Performs done result ↔
      ∃ closing : Closing,
        done = .called library (.disconnect link.handle) closing.close ::
          (if closing.close.isOk then [.called library .shutdown closing.shutdown] else []) ++
          dismissal child closing ∧
        result = parted .disconnect closing.close closing.shutdown >>= fun _ =>
          dismissed child closing.terminate closing.kill := by
  unfold disconnectChild
  rw [performs_bind_iff]
  constructor
  · rintro ⟨first, second, left, rfl, hleave, h⟩
    obtain ⟨close, shutdown, rfl, rfl⟩ := performs_disconnect_iff.mp hleave
    have down := isOk_parted .disconnect close shutdown
    cases said : parted .disconnect close shutdown with
    | error failure =>
      rw [said] at h down
      obtain ⟨rfl, rfl⟩ := (silent_pure _ _ _).mp h
      -- The steps that were not come to can be said to have ended in any way.
      have spared : dismissal child { Closing.smooth with close, shutdown } = [] :=
        dismissal_of_not_isDown down.symm
      exact ⟨{ Closing.smooth with close, shutdown }, congrArg (_ ++ ·) spared.symm,
        by rw [said]; rfl⟩
    | ok u =>
      rw [said] at h down
      obtain ⟨terminate, kill, reap, rfl, rfl⟩ := performs_terminate_iff.mp h
      have ended : dismissal child { Closing.smooth with close, shutdown, terminate, kill, reap } =
          _ := dismissal_of_isDown down.symm
      exact ⟨{ Closing.smooth with close, shutdown, terminate, kill, reap },
        congrArg (_ ++ ·) ended.symm, by rw [said]; rfl⟩
  · rintro ⟨closing, rfl, rfl⟩
    have leaves : (disconnect library link).Performs _ _ :=
      performs_disconnect_iff.mpr ⟨closing.close, closing.shutdown, rfl, rfl⟩
    refine ⟨_, _, _, rfl, leaves, ?_⟩
    have down := isOk_parted .disconnect closing.close closing.shutdown
    cases said : parted .disconnect closing.close closing.shutdown with
    | error failure =>
      rw [said] at down
      rw [dismissal_of_not_isDown down.symm]
      exact (silent_pure _ _ _).mpr ⟨rfl, rfl⟩
    | ok u =>
      rw [said] at down
      rw [dismissal_of_isDown down.symm]
      exact performs_terminate_iff.mpr ⟨closing.terminate, closing.kill, closing.reap, rfl, rfl⟩

theorem performs_stopChild_iff {library : Native.Library} {link : Link} {child : Child} :
    (stopChild library link child).Performs done result ↔
      ∃ closing : Closing,
        done = .called library (.disconnect link.handle) closing.close ::
          (if closing.close.isOk then [.called library .shutdown closing.shutdown] else []) ++
          (dismissal child closing ++ [⟨.remove child.socketPath, closing.remove⟩]) ∧
        result = parted .disconnect closing.close closing.shutdown >>= fun _ =>
          dismissed child closing.terminate closing.kill := by
  unfold stopChild
  rw [performs_bind_iff]
  constructor
  · rintro ⟨first, second, outcome, rfl, hstop, h⟩
    obtain ⟨closing, rfl, rfl⟩ := performs_disconnectChild_iff.mp hstop
    obtain ⟨third, fourth, u, rfl, hremove, hend⟩ := performs_bind_iff.mp h
    obtain ⟨remove, rfl, -⟩ := performs_removeSocket_iff.mp hremove
    obtain ⟨rfl, rfl⟩ := performs_pure_iff.mp hend
    exact ⟨{ closing with remove }, List.append_assoc _ _ _, rfl⟩
  · rintro ⟨closing, rfl, rfl⟩
    have stops : (disconnectChild library link child).Performs _ _ :=
      performs_disconnectChild_iff.mpr ⟨closing, rfl, rfl⟩
    have removes : (removeSocket child).Performs _ () :=
      performs_removeSocket_iff.mpr ⟨closing.remove, rfl, rfl⟩
    refine ⟨_, _, _, (List.append_assoc _ _ _).symm, stops, ?_⟩
    exact performs_bind_iff.mpr
      ⟨_, [], (), (List.append_nil _).symm, removes, performs_pure_iff.mpr ⟨rfl, rfl⟩⟩

/-! ### A whole shutdown -/

theorem performs_takeDown_iff_of_childless {session : Session} (childless : session.child? = none)
    (parts : (takeDown session.library session.connection).Performs done result ↔
      ∃ close shutdown : Except Native.Failure Unit,
        done = session.closeExchange close ::
          (if close.isOk then [.called session.library .shutdown shutdown] else []) ∧
        result = parted session.closeStep close shutdown) :
    (takeDown session.library session.connection).Performs done result ↔
      ∃ closing : Closing, done = session.lowering closing ∧ result = session.outcome closing := by
  rw [parts]
  unfold lowering bereaving outcome
  rw [childless]
  constructor
  · rintro ⟨close, shutdown, rfl, rfl⟩
    exact ⟨{ Closing.smooth with close, shutdown }, (List.append_nil _).symm, bind_pure_unit.symm⟩
  · rintro ⟨closing, rfl, rfl⟩
    exact ⟨closing.close, closing.shutdown, List.append_nil _, bind_pure_unit⟩

theorem performs_takeDown_iff {session : Session} :
    (takeDown session.library session.connection).Performs done result ↔
      ∃ closing : Closing, done = session.lowering closing ∧ result = session.outcome closing := by
  obtain ⟨library, connection⟩ := session
  cases connection with
  | embedded handle => exact performs_takeDown_iff_of_childless rfl performs_stopEmbedded_iff
  | standalone link => exact performs_takeDown_iff_of_childless rfl performs_disconnect_iff
  | managedChild link child => exact performs_stopChild_iff

theorem performs_shutdown_iff {session : Session} :
    session.shutdown.Performs done result ↔
      ∃ closing : Closing, done = session.teardown closing ∧ result = session.outcome closing := by
  unfold shutdown
  rw [(silent_log _ _ _).performs_bind_iff, performs_bind_iff]
  constructor
  · rintro ⟨first, second, outcome, rfl, hdown, h⟩
    obtain ⟨closing, rfl, rfl⟩ := performs_takeDown_iff.mp hdown
    obtain ⟨third, fourth, u, rfl, hrelease, hend⟩ := performs_bind_iff.mp h
    obtain ⟨unload, rfl, -⟩ := performs_release_iff.mp hrelease
    rw [(silent_reportEnd _ _).performs_bind_iff] at hend
    obtain ⟨rfl, rfl⟩ := performs_pure_iff.mp hend
    exact ⟨{ closing with unload }, rfl, rfl⟩
  · rintro ⟨closing, rfl, rfl⟩
    have lowers : (takeDown session.library session.connection).Performs _ _ :=
      performs_takeDown_iff.mpr ⟨closing, rfl, rfl⟩
    have releases : (release session.library).Performs _ () :=
      performs_release_iff.mpr ⟨closing.unload, rfl, rfl⟩
    refine ⟨_, _, _, rfl, lowers, ?_⟩
    refine performs_bind_iff.mpr ⟨_, [], (), (List.append_nil _).symm, releases, ?_⟩
    rw [(silent_reportEnd _ _).performs_bind_iff]
    exact performs_pure_iff.mpr ⟨rfl, rfl⟩

/-! ### Dropping -/

def dropping (session : Session) (removed : Except Kernel.Fault Unit) : List Exchange :=
  ⟨.discard session.library, ()⟩ ::
    match session.child? with
    | none => []
    | some child => [⟨.remove child.socketPath, removed⟩]

theorem performs_drop_iff {session : Session} {u : Unit} :
    session.drop.Performs done u ↔ ∃ removed, done = session.dropping removed := by
  unfold drop dropping
  rw [performs_ask_iff]
  cases session.child? with
  | none =>
    constructor
    · rintro ⟨reply, rest, rfl, h⟩
      obtain ⟨rfl, -⟩ := performs_pure_iff.mp h
      exact ⟨.ok (), rfl⟩
    · rintro ⟨removed, rfl⟩
      exact ⟨(), [], rfl, performs_pure_iff.mpr ⟨rfl, rfl⟩⟩
  | some child =>
    have step : ∀ rest, (perform (.remove child.socketPath) >>= fun _ => pure ()).Performs rest u ↔
        ∃ removed, rest = [⟨.remove child.socketPath, removed⟩] ∧ u = () :=
      fun rest => performs_step_iff fun _ => silent_pure _
    constructor
    · rintro ⟨reply, rest, rfl, h⟩
      obtain ⟨removed, rfl, -⟩ := (step rest).mp h
      exact ⟨removed, rfl⟩
    · rintro ⟨removed, rfl⟩
      exact ⟨(), _, rfl, (step _).mpr ⟨removed, rfl, rfl⟩⟩

end HostEngine.Session
