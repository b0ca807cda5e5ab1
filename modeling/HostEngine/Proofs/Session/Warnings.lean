import HostEngine.Proofs.Warnings
/-!
# The warnings of a start and of a shutdown

Each of the procedures that starting and shutting down are made of tells of its failures, so that
none of them is lost (`no_failure_lost`). That a shutdown left something behind shows in the log,
and so does nothing else (`warned_iff_of_ended`).
-/
set_option autoImplicit false

namespace HostEngine

namespace Session

open Procedure

/-! ### Cleaning up -/

theorem tells_release (library : Native.Library) : (release library).Tells False := by
  intro reply
  cases reply with
  | ok u => exact fun _ => .calm _ _ rfl rfl (.calm _ _ rfl rfl .nil)
  | error reason => exact fun _ => .failed _ _ _ _ rfl ⟨rfl, "", String.empty_append.symm⟩ .nil

theorem tells_reap (child : Child) : (reap child).Tells False := by
  intro reply
  cases reply with
  | ok exit => exact fun _ => .calm _ _ rfl rfl (.calm _ _ rfl rfl .nil)
  | error fault => exact fun _ => .failed _ _ _ _ rfl ⟨rfl, _, rfl⟩ .nil

theorem tells_removeSocket (child : Child) : (removeSocket child).Tells False := by
  intro reply
  cases reply with
  | ok u => exact fun _ => .calm _ _ rfl rfl (.calm _ _ rfl rfl .nil)
  | error fault =>
    show Ensures (if fault.isMissing then _ else _) _
    by_cases missing : fault.isMissing = true
    · rw [if_pos missing]
      exact fun _ => .calm _ _ (if_pos missing) rfl (.calm _ _ rfl rfl .nil)
    · rw [if_neg missing]
      exact fun _ => .failed _ _ _ _ (if_neg missing) ⟨rfl, _, rfl⟩ .nil

theorem tells_killChild (child : Child) : (killChild child).Tells False := by
  intro reply
  cases reply with
  | ok u => exact (tells_reap child).mono fun _ _ told => .calm _ _ rfl rfl told
  | error errno => exact fun _ => .failed _ _ _ _ rfl ⟨rfl, _, String.append_assoc.symm⟩ .nil

theorem tells_abort (child : Child) : (abort child).Tells True := by
  have cleans : (killChild child >>= fun _ => removeSocket child).Tells False :=
    (tells_killChild child).bind fun _ => tells_removeSocket child
  refine ensures_log_bind (cleans.mono fun trace _ told => ?_)
  exact .noticed _ _ trivial (told.mono nofun)

/-! ### Starting -/

theorem tells_warnOfSecond (library : Native.Library) :
    (perform (.call library .shutdown) >>= warnOfSecond).Tells False := by
  intro reply
  cases reply with
  | ok u => exact .calm _ _ rfl rfl .nil
  | error second => exact fun _ => .failed _ _ _ _ rfl ⟨rfl, _, rfl⟩ .nil

theorem reported_withInit {α : Type} (library : Native.Library)
    {start : Procedure (Except Failure α)} (reported : start.Reported) :
    (withInit library start).Reported := by
  intro reply
  cases reply with
  | error failure => exact .failed rfl
  | ok u =>
    refine (Reported.bind reported ?_ ?_).mono fun trace result => .calm rfl rfl
    · intro a
      exact .well [] a .nil
    · intro failure
      exact Tells.error (tells_warnOfSecond library) failure

theorem reported_startEmbedded (library : Native.Library) : (startEmbedded library).Reported := by
  refine Reported.bind (reported_withInit library ?_) ?_ ensures_error
  · intro reply
    cases reply with
    | ok handle => exact .well _ handle (.calm _ _ rfl rfl .nil)
    | error failure => exact .failed rfl
  · intro handle _
    exact .well _ handle (.calm _ _ rfl rfl .nil)

theorem reported_connect (library : Native.Library) (target : Target) :
    (connect library target).Reported := by
  refine Reported.bind (reported_withInit library ?_) ?_ ensures_error
  · intro _ reply
    cases reply with
    | ok handle => exact .well _ handle (.calm _ _ rfl rfl (.calm _ _ rfl rfl .nil))
    | error failure => exact .calm rfl rfl (.failed rfl)
  · intro handle _
    exact .well _ _ (.calm _ _ rfl rfl .nil)

theorem reported_connectChild (library : Native.Library) (child : Child) :
    (connectChild library child).Reported := by
  unfold connectChild
  cases addressed : Target.ofSocketPath child.socketPath with
  | error failure =>
    have unasked : Cause [] failure := .unasked failure (.unaddressed _ failure addressed)
    exact .badly [] [] [] failure .nil unasked .nil
  | ok target => exact reported_connect library target

theorem reported_adopt (library : Native.Library) (child : Child) :
    (adopt library child).Reported := by
  refine Reported.bind (reported_connectChild library child) ?_ ?_
  · intro link
    exact .well [] _ .nil
  · exact (tells_abort child).error

theorem reported_launch (library : Native.Library) (executable socketPath : Octets) :
    (launch library executable socketPath).Reported := by
  intro reply
  cases reply with
  | error fault => exact fun removed => .badly [] _ [] _ .nil (.unborn _ _ fault _ removed) .nil
  | ok pid =>
    intro _ _
    exact (reported_adopt library _).mono fun trace result ends =>
      .calm rfl rfl (.calm rfl rfl (.calm rfl rfl ends))

theorem reported_startChild (library : Native.Library) (options : ChildOptions) :
    (startChild library options).Reported := by
  unfold startChild Program.find
  by_cases unnamed : options.executable.isEmpty = true
  · rw [if_pos unnamed]
    obtain ⟨executable, searchPath, scratchDirectory, socketStem⟩ := options
    obtain rfl : executable = "" := String.isEmpty_iff.mp unnamed
    exact .badly [] [] [] _ .nil (.unasked _ .unnamed) .nil
  · rw [if_neg unnamed]
    intro reply
    cases reply with
    | error reason => exact .failed rfl
    | ok executable =>
      intro _ reply
      cases reply with
      | error fault => exact .calm rfl rfl (.calm rfl rfl (.failed rfl))
      | ok socketPath =>
        exact (reported_launch library executable socketPath).mono fun trace result ends =>
          .calm rfl rfl (.calm rfl rfl (.calm rfl rfl ends))

theorem reported_follow (library : Native.Library) (options : ChildOptions) (plan : Plan) :
    (follow library options plan).Reported := by
  cases plan with
  | embedded => exact (reported_startEmbedded library).map Connection.embedded
  | standalone target => exact (reported_connect library target).map Connection.standalone
  | managedChild => exact reported_startChild library options

/-! ### Shutting down -/

theorem reported_shutdownLibrary (library : Native.Library) :
    (shutdownLibrary library).Reported := by
  intro reply
  cases reply with
  | ok u => exact .well _ () (.calm _ _ rfl rfl .nil)
  | error failure => exact .failed rfl

theorem reported_stopEmbedded (library : Native.Library) (handle : Native.Handle) :
    (stopEmbedded library handle).Reported := by
  intro reply
  cases reply with
  | error failure => exact .failed rfl
  | ok u =>
    intro _
    exact (reported_shutdownLibrary library).mono fun trace result ends =>
      .calm rfl rfl (.calm rfl rfl ends)

theorem reported_disconnect (library : Native.Library) (link : Link) :
    (disconnect library link).Reported := by
  intro reply
  cases reply with
  | error failure => exact .failed rfl
  | ok u =>
    intro _
    exact (reported_shutdownLibrary library).mono fun trace result ends =>
      .calm rfl rfl (.calm rfl rfl ends)

theorem ensures_runToEnd (program : Octets) (arguments : List Octets) :
    (Program.runToEnd program arguments).Ensures fun trace result =>
      ∃ reply, trace = [⟨.runToEnd program arguments, reply⟩] ∧
        result = Program.verdict program reply := by
  apply ensures_step
  intro reply
  cases reply with
  | ok exit =>
    show (if exit.isSuccess then _ else _) = done (if exit.isSuccess then _ else _)
    split <;> rfl
  | error fault => rfl

theorem reported_terminate (child : Child) : (terminate child).Reported := by
  refine Ensures.bind (ensures_runToEnd _ _) ?_
  rintro _ _ ⟨reply, rfl, rfl⟩
  cases said : Program.verdict child.executable reply with
  | error failure =>
    refine .failed ?_
    simp only [Exchange.failure?, said]
  | ok u =>
    have untroubled := Exchange.untroubled_of_verdict [.ofString terminateArgument] said
    intro _ kill
    cases kill with
    | error errno => exact .calm untroubled rfl (.calm rfl rfl (.failed rfl))
    | ok u =>
      refine ((tells_reap child).bind_pure (Except.ok ())).mono ?_
      rintro trace _ ⟨told, rfl⟩
      exact .calm untroubled rfl (.calm rfl rfl (.calm rfl rfl (.well trace () told)))

theorem reported_disconnectChild (library : Native.Library) (link : Link) (child : Child) :
    (disconnectChild library link child).Reported :=
  Reported.bind (reported_disconnect library link) (fun _ => reported_terminate child) ensures_error

theorem reported_stopChild (library : Native.Library) (link : Link) (child : Child) :
    (stopChild library link child).Reported :=
  (reported_disconnectChild library link child).bind_tells (tells_removeSocket child)

theorem reported_takeDown (library : Native.Library) (connection : Connection) :
    (takeDown library connection).Reported := by
  cases connection with
  | embedded handle => exact reported_stopEmbedded library handle
  | standalone link => exact reported_disconnect library link
  | managedChild link child => exact reported_stopChild library link child

/-! ### The whole -/

theorem ensures_reportEnd (mode : Mode) (result : Except Failure Unit) :
    (reportEnd mode result).Ensures fun trace _ =>
      Told (result.isOk = false) trace ∧ Announced trace result := by
  cases result with
  | ok u => exact fun _ => ⟨.calm _ _ rfl rfl .nil, nofun⟩
  | error failure =>
    intro _
    refine ⟨.noticed _ _ rfl .nil, ?_⟩
    rintro _ ⟨⟩
    exact ⟨_, List.mem_cons_self, rfl, _, rfl⟩

theorem ensures_shutdown (session : Session) :
    session.shutdown.Ensures fun trace result => Ends trace result ∧ Announced trace result := by
  refine ensures_log_bind (Ensures.bind (reported_takeDown _ _) fun lowering result ends => ?_)
  refine Ensures.bind (tells_release session.library) fun closing _ told => ?_
  refine Ensures.bind (ensures_reportEnd session.mode result) fun report _ ⟨heard, announced⟩ => ?_
  show Ends (_ :: (lowering ++ (closing ++ (report ++ [])))) result ∧ Announced _ result
  rw [List.append_nil]
  refine ⟨.calm rfl rfl (ends.append ((told.mono False.elim).append heard)), ?_⟩
  exact announced.mono fun e member => by simp [member]

def Loaded (name : String) (trace : List Exchange) : Prop :=
  ∃ library, ⟨.load name, .ok library⟩ ∈ trace

theorem ensures_startPlanned (options : Options) (mode : Mode) (plan : Plan) :
    (startPlanned options mode plan).Ensures fun trace result =>
      Loaded options.library trace ∧ Ends trace result ∧ Announced trace result ∨
      ¬ Loaded options.library trace ∧ ¬ Warned trace := by
  refine ensures_log_bind fun reply => ?_
  cases reply with
  | error reason => exact .inr ⟨by simp [Loaded], by simp [Warned, Exchange.isWarning]⟩
  | ok library =>
    have loaded (first : Exchange) (rest : List Exchange) :
        Loaded options.library (first :: ⟨.load options.library, .ok library⟩ :: rest) :=
      ⟨library, List.mem_cons_of_mem _ List.mem_cons_self⟩
    refine ensures_log_bind (Ensures.bind (reported_follow library options.child plan) ?_)
    intro making result ends
    have returned := ends.map fun connection => (⟨library, connection⟩ : Session)
    cases result with
    | ok connection =>
      refine fun _ => .inl ⟨loaded _ _, .calm rfl rfl (.calm rfl rfl (.calm rfl rfl ?_)), nofun⟩
      exact returned.append (.calm _ _ rfl rfl .nil)
    | error failure =>
      refine ensures_log_bind (((tells_release library).bind_pure _).mono ?_)
      rintro closing _ ⟨told, rfl⟩
      refine .inl ⟨loaded _ _, .calm rfl rfl (.calm rfl rfl (.calm rfl rfl ?_)), ?_⟩
      · exact returned.noticed _ told
      · rintro _ ⟨⟩
        let event : Log.Event :=
          ⟨.warn, .manager, "Failed to initialize " ++ mode.name ++ " session: " ++ failure.message⟩
        exact ⟨event, by simp [event], rfl, _, rfl⟩

theorem ensures_start (options : Options) (mode : Mode) (args : List String) :
    (start options mode args).Ensures fun trace result =>
      Loaded options.library trace ∧ Ends trace result ∧ Announced trace result ∨
      ¬ Loaded options.library trace ∧ ¬ Warned trace := by
  unfold start
  cases Plan.make mode args with
  | error failure => exact .inr ⟨by simp [Loaded], by simp [Warned]⟩
  | ok plan => exact ensures_startPlanned options mode plan

/-- Of a start that loads the library, and of any shutdown, no failure is lost. Before the library
is loaded there are no warnings. -/
theorem no_failure_lost {options : Options} {mode : Mode} {args : List String} {session : Session}
    {starting stopping : List Exchange} {started : Except Failure Session}
    {stopped : Except Failure Unit} (starts : Yields (start options mode args) starting started)
    (stops : Yields session.shutdown stopping stopped) :
    (Loaded options.library starting → Accounted starting started) ∧
      (¬ Loaded options.library starting → ¬ Warned starting) ∧ Accounted stopping stopped := by
  obtain ⟨ends, announced⟩ := ensures_iff.mp (ensures_shutdown session) _ _ stops
  refine ⟨?_, ?_, ends.accounted announced⟩
  · intro loaded
    rcases ensures_iff.mp (ensures_start options mode args) _ _ starts with h | ⟨unloaded, -⟩
    · exact h.2.1.accounted h.2.2
    · exact absurd loaded unloaded
  · intro unloaded
    rcases ensures_iff.mp (ensures_start options mode args) _ _ starts with h | ⟨-, calm⟩
    · exact absurd h.1 unloaded
    · exact calm

/-- A child is started but refuses the connection, and nothing can be cleaned up after that. Another
is disconnected from and killed, but its path and the library stay. -/
theorem no_failure_lost_of_child :
    let refusal : Native.Failure := ⟨-21, "refused"⟩
    let session : Session :=
      ⟨⟨0, Native.defaultLibrary⟩, .managedChild ⟨⟨7⟩, ⟨[46], 1, rfl⟩⟩ ⟨42, [47], [46]⟩⟩
    ∃ starting stopping,
      Yields (start .default .managedChild []) starting (.error (.native .connect refusal)) ∧
      Yields session.shutdown stopping (.ok ()) ∧ Loaded Options.default.library starting ∧
      Accounted starting (.error (.native .connect refusal) : Except Failure Session) ∧
      Accounted stopping (.ok () : Except Failure Unit) := by
  intro refusal session
  have linking : Linking session.library ⟨43, [47], [47]⟩ _ (.error (.native .connect refusal)) :=
    .tried ⟨[47], 1, rfl⟩ _ (.error (.native .connect refusal)) rfl
      (.unopened refusal (.error refusal))
  have startup : Startup .default .managedChild [] _ (.error (.native .connect refusal)) :=
    .failed .managedChild session.library _ _ (.error "busy") rfl (.managedChild _ _
      (.launched [47] [47] _ _ rfl (.aborted 43 _ _ (.error .notPermitted) (.ok (.code 0))
        (.error (.system .isDirectory)) linking)))
  obtain ⟨starting, starts, same⟩ := performs_start_iff.mpr startup
  have downed : session.shutdown.Performs _ (.ok ()) := performs_shutdown_iff.mpr
    ⟨{ Closing.smooth with remove := .error (.system .isDirectory), unload := .error "busy" },
      rfl, rfl⟩
  obtain ⟨stopping, stops, -⟩ := downed
  have acted : ⟨.load Options.default.library, .ok session.library⟩ ∈ effects starting := by
    rw [same]
    exact List.mem_cons_self
  have loaded : Loaded Options.default.library starting := ⟨_, List.mem_of_mem_filter acted⟩
  obtain ⟨start_, -, shutdown_⟩ := no_failure_lost starts stops
  exact ⟨starting, stopping, starts, stops, loaded, start_ loaded, shutdown_⟩

/-! ### How a session ends -/

/-- A session ends by a shutdown, which has a result, or by being dropped. -/
inductive Ended (session : Session) (trace : List Exchange) : Option (Except Failure Unit) → Prop
  | shutDown (stopped : Except Failure Unit) (stops : Yields session.shutdown trace stopped) :
    Ended session trace (some stopped)
  | dropped (drops : Yields session.drop trace ()) : Ended session trace none

/-- What a start did is not wholly reversed: the session was dropped, the shutdown returned a
failure, or the child was not reaped, its path not removed or the library not closed. -/
def Unclean (trace : List Exchange) : Option (Except Failure Unit) → Prop
  | none => True
  | some stopped => stopped.isOk = false ∨
    ∃ step ∈ trace, step.isCleanup = true ∧ step.trouble? ≠ none

theorem eq_ok_of_dismissed {child : Child} {asked : Except Kernel.Fault Kernel.Exit}
    {kill : Except Kernel.Errno Unit} (ended : dismissed child asked kill = .ok ()) :
    Program.verdict child.executable asked = .ok () ∧ kill = .ok () := by
  unfold dismissed at ended
  cases said : Program.verdict child.executable asked with
  | error failure =>
    rw [said] at ended
    cases ended
  | ok u =>
    rw [said] at ended
    cases kill with
    | error errno => cases ended
    | ok u => exact ⟨rfl, rfl⟩

theorem isCleanup_of_trouble {session : Session} {closing : Closing}
    (ended : session.outcome closing = .ok ()) :
    ∀ step ∈ session.teardown closing, step.trouble? ≠ none → step.isCleanup = true := by
  unfold outcome parted at ended
  cases close : closing.close with
  | error failure =>
    rw [close] at ended
    cases ended
  | ok u =>
    cases shutdown : closing.shutdown with
    | error failure =>
      rw [close, shutdown] at ended
      cases ended
    | ok u =>
      rw [close, shutdown] at ended
      unfold teardown
      rw [List.forall_mem_append, List.forall_mem_singleton]
      refine ⟨forall_mem_lowering ?_ ?_ ?_, fun _ => rfl⟩
      · rw [close]
        obtain ⟨library, connection⟩ := session
        cases connection <;> exact fun troubled => absurd rfl troubled
      · rw [shutdown]
        exact fun troubled => absurd rfl troubled
      · intro child own
        rw [own] at ended
        obtain ⟨said, killed⟩ := eq_ok_of_dismissed ended
        refine ⟨forall_mem_dismissal ?_ ?_ fun _ => rfl, fun _ => rfl⟩
        · exact absurd (Exchange.untroubled_of_verdict _ said)
        · rw [killed]
          exact absurd rfl

theorem not_warned_of_dropped {session : Session} {trace : List Exchange}
    (drops : Yields session.drop trace ()) : ¬ Warned trace := by
  have silent : session.drop.Ensures fun trace _ => ¬ Warned trace := by
    unfold drop
    cases session.child? with
    | none =>
      intro _
      show ¬ Warned [_]
      simp [Warned, Exchange.isWarning]
    | some child =>
      intro _ _
      show ¬ Warned [_, _]
      simp [Warned, Exchange.isWarning]
  exact ensures_iff.mp silent trace () drops

/-- The log shows that a session ended uncleanly if it was shut down, and only then: of a session
that is dropped it shows nothing. -/
theorem warned_iff_of_ended {session : Session} {trace : List Exchange}
    {ending : Option (Except Failure Unit)} (ended : Ended session trace ending) :
    Warned trace ↔ ending.isSome = true ∧ Unclean trace ending := by
  cases ended with
  | dropped drops => exact ⟨fun warned => absurd warned (not_warned_of_dropped drops), nofun⟩
  | shutDown stopped stops =>
    obtain ⟨ends, announced⟩ := ensures_iff.mp (ensures_shutdown session) _ _ stops
    cases stopped with
    | error failure =>
      obtain ⟨event, member, level, -⟩ := announced failure rfl
      exact ⟨fun _ => ⟨rfl, .inl rfl⟩, fun _ => ⟨_, member, decide_eq_true level⟩⟩
    | ok u =>
      obtain ⟨closing, same, returned⟩ := performs_shutdown_iff.mp stops.performs
      have cleanup := isCleanup_of_trouble returned.symm
      rw [← same] at cleanup
      -- The trace of a success has no notices, so each warning in it is of a step that failed.
      cases ends with
      | well _ _ told =>
        rw [told.warned_iff]
        constructor
        · rintro ⟨step, member, troubled⟩
          have acted := List.mem_filter.mpr ⟨member, Exchange.isEffect_of_trouble troubled⟩
          exact ⟨rfl, .inr ⟨step, member, cleanup step acted troubled, troubled⟩⟩
        · rintro ⟨-, failed | ⟨step, member, -, troubled⟩⟩
          · cases failed
          · exact ⟨step, member, troubled⟩

/-- A shutdown that only fails to reap its child succeeds, and the log shows that. -/
theorem warned_of_unreaped :
    let session : Session :=
      ⟨⟨0, Native.defaultLibrary⟩, .managedChild ⟨⟨7⟩, ⟨[46], 1, rfl⟩⟩ ⟨42, [47], [46]⟩⟩
    ∃ trace, Ended session trace (some (.ok ())) ∧ Warned trace := by
  intro session
  let closing : Closing := { Closing.smooth with reap := .error (.system .noProcess) }
  have ends : session.shutdown.Performs (session.teardown closing) (.ok ()) :=
    performs_shutdown_iff.mpr ⟨closing, rfl, rfl⟩
  obtain ⟨trace, stops, same⟩ := ends
  have acted : ⟨.wait 42, closing.reap⟩ ∈ effects trace := by
    rw [same]
    exact .tail _ (.tail _ (.tail _ (.tail _ (.head _))))
  have ended : Ended session trace (some (.ok ())) := .shutDown _ stops
  have unclean : Unclean trace (some (.ok ())) :=
    .inr ⟨_, List.mem_of_mem_filter acted, rfl, by simp [closing, Exchange.trouble?]⟩
  exact ⟨trace, ended, (warned_iff_of_ended ended).mpr ⟨rfl, unclean⟩⟩

/-- An embedded session is dropped, which is unclean, and the log does not show it. -/
theorem not_warned_iff_unclean_of_dropped :
    let session : Session := ⟨⟨0, Native.defaultLibrary⟩, .embedded ⟨0xd0c6⟩⟩
    let trace : List Exchange := [⟨.discard session.library, ()⟩]
    Ended session trace none ∧ ¬ (Warned trace ↔ Unclean trace none) := by
  intro session trace
  have drops : Yields session.drop trace () :=
    .request (.discard session.library) (fun _ => pure ()) () [] () (.done ())
  exact ⟨.dropped drops, fun claimed => not_warned_of_dropped drops (claimed.mpr trivial)⟩

end Session

end HostEngine
