import HostEngine.Control
import HostEngine.Proofs.Exposure
import HostEngine.Proofs.Session.Reversal
/-!
# When the control program abandons its session

A signal ends the program before it shuts its session down exactly if it arrives while the session is
being kept and is not caught by then (`abandons_iff`). Signals are caught only where the program waits
for one. So `NeverAbandons` holds if no signal arrives, and fails for a program with a duration.
-/
set_option autoImplicit false

namespace HostEngine

namespace Procedure

variable {α β : Type} {P : Request → Prop} {p left : Procedure α}

theorem Asks.reaches {trace : List Exchange} (asks : Asks P p) (reaches : Reaches p trace left) :
    (∀ exchange ∈ trace, P exchange.request) ∧ Asks P left := by
  induction reaches with
  | here p => exact ⟨List.forall_mem_nil _, asks⟩
  | request r next reply trace left rest ih =>
    obtain ⟨asked, remains⟩ := ih (asks.2 reply)
    exact ⟨List.forall_mem_cons.mpr ⟨asks.1, asked⟩, remains⟩

end Procedure

namespace Control

open Procedure CommandLine

/-! ### Being kept, and being shut down -/

variable {words : List String} {opening since : List Exchange} {session : Session}
  {duration : Option UInt64} {arriving : List Kernel.Signal}

/-- The program still keeps the session after these exchanges. -/
def Attending (session : Session) (duration : Option UInt64) (since : List Exchange) : Prop :=
  ∃ r next, Reaches (attend session duration) since (.request r next)

/-- Within these exchanges the program stopped keeping the session and called its shutdown. -/
def ShutdownCalled (session : Session) (duration : Option UInt64) (since : List Exchange) : Prop :=
  ∃ first second, since = first ++ second ∧ Yields (attend session duration) first ()

/-- If no other signals arrive than these, at whatever time, the program does not end between the
start of a session and the call of its shutdown. -/
def NeverAbandons (words : List String) (arriving : List Kernel.Signal) : Prop :=
  ∀ opening session duration since, Yields (setUp words) opening (.ok (session, duration)) →
    CanEnd (program words) arriving (opening ++ since) → ShutdownCalled session duration since

theorem reaches_keep_iff {left : Procedure (Except Failure Unit)} :
    Reaches (keep session duration) since left ↔
      (∃ r next, Reaches (attend session duration) since (.request r next) ∧
        left = (.request r next >>= fun _ => close session)) ∨
      ∃ first second, since = first ++ second ∧ Yields (attend session duration) first () ∧
        Reaches (close session) second left := by
  unfold keep
  rw [reaches_bind_iff]
  constructor
  · rintro (inside | ⟨first, second, u, split, yields, past⟩)
    · exact .inl inside
    · exact .inr ⟨first, second, split, yields, past⟩
  · rintro (inside | ⟨first, second, split, yields, past⟩)
    · exact .inl inside
    · exact .inr ⟨first, second, (), split, yields, past⟩

theorem Attending.not_shutdownCalled (attending : Attending session duration since) :
    ¬ ShutdownCalled session duration since := by
  rintro ⟨first, second, rfl, yields⟩
  obtain ⟨r, next, reaches⟩ := attending
  exact yields.not_reaches_request reaches

/-! ### Which signals are caught -/

/-- The request has nothing to do with signals to the program. -/
def Heedless : Request → Prop
  | .catchSignal _ | .awaitSignal => False
  | _ => True

theorem caughtBy_of_heedless {trace : List Exchange}
    (heedless : ∀ exchange ∈ trace, Heedless exchange.request) : caughtBy trace = [] := by
  rw [List.eq_nil_iff_forall_not_mem]
  intro signal caught
  exact heedless _ (mem_caughtBy_iff.mp caught)

theorem heedless_opening (options : Options) (session : Session) :
    ∀ exchange ∈ session.opening options, Heedless exchange.request := by
  obtain ⟨library, connection⟩ := session
  cases connection with
  | embedded handle => simp [Session.opening, Session.joining, Session.reached,
      Session.startExchange, Heedless]
  | standalone link => simp [Session.opening, Session.joining, Session.reached,
      Session.connectExchange, Heedless]
  | managedChild link child => simp [Session.opening, Session.joining, Session.birth,
      Session.reached, Session.connectExchange, Heedless]

theorem asks_configure (arguments : Arguments) : Asks Heedless (configure arguments) := by
  unfold configure
  cases arguments.config with
  | none => trivial
  | some path => exact (asks_perform trivial).bind fun _ => trivial

theorem performs_startSession_iff {config : Config} {done : List Exchange} :
    (startSession config).Performs done (.ok session) ↔
      (Session.start config.options config.mode config.startupArgs).Performs done (.ok session) := by
  unfold startSession say
  rw [(silent_log _ _ _).performs_bind_iff, (silent_log _ _ _).performs_bind_iff,
    performs_bind_silent_iff (f := Except.mapError Failure.start)]
  · constructor
    · rintro ⟨result, performs, same⟩
      cases result with
      | error failure => cases same
      | ok other =>
        cases same
        exact performs
    · intro performs
      exact ⟨.ok session, performs, rfl⟩
  · intro result
    cases result with
    | error failure => exact (silent_log _ _ _).bind (silent_pure _)
    | ok other => exact silent_pure _

/-- What the program does until its session is started: it reads its configuration, selects what is
logged, and starts the session. -/
theorem performs_setUp_iff {arguments : Arguments} {done : List Exchange}
    (read : Arguments.read words = .ok arguments) :
    (setUp words).Performs done (.ok (session, duration)) ↔
      ∃ before config selection rest,
        done = before ++ (⟨.environment filterVariable, selection⟩ ::
          ⟨.selectLog (Log.Filter.choose selection (logLevel arguments config)), ()⟩ :: rest) ∧
        (configure arguments).Performs before (.ok config) ∧
        (Session.start config.options config.mode config.startupArgs).Performs rest
          (.ok session) ∧
        duration = arguments.runDuration := by
  unfold setUp
  rw [read]
  simp only
  rw [performs_bind_iff]
  constructor
  · rintro ⟨before, later, configured, rfl, configures, goesOn⟩
    cases configured with
    | error failure =>
      obtain ⟨-, same⟩ := performs_pure_iff.mp goesOn
      cases same
    | ok config =>
      obtain ⟨selection, _, rfl, selects⟩ := performs_ask_iff.mp goesOn
      obtain ⟨u, rest, rfl, starts⟩ := performs_ask_iff.mp selects
      obtain ⟨result, begins, same⟩ :=
        (performs_bind_silent_iff fun result => silent_pure _).mp starts
      cases result with
      | error failure => cases same
      | ok other =>
        cases same
        exact ⟨before, config, selection, rest, rfl, configures,
          performs_startSession_iff.mp begins, rfl⟩
  · rintro ⟨before, config, selection, rest, rfl, configures, starts, rfl⟩
    refine ⟨before, _, .ok config, rfl, configures, ?_⟩
    refine performs_ask_iff.mpr ⟨selection, _, rfl, performs_ask_iff.mpr ⟨(), rest, rfl, ?_⟩⟩
    exact (performs_bind_silent_iff fun result => silent_pure _).mpr
      ⟨.ok session, performs_startSession_iff.mpr starts, rfl⟩

theorem caughtBy_setUp (started : Yields (setUp words) opening (.ok (session, duration))) :
    caughtBy opening = [] := by
  cases read : Arguments.read words with
  | error stop =>
    unfold setUp at started
    rw [read] at started
    cases started
  | ok arguments =>
    obtain ⟨before, config, selection, rest, same, ⟨trace, configures, rfl⟩, starts, -⟩ :=
      (performs_setUp_iff read).mp started.performs
    have first : caughtBy trace = [] := caughtBy_of_heedless
      ((asks_configure arguments).reaches (yields_iff_reaches.mp configures)).1
    have last : caughtBy rest = [] := by
      rw [(Session.performs_start_iff.mp starts).eq_opening.1]
      exact caughtBy_of_heedless (heedless_opening _ _)
    rw [← caughtBy_effects, same, caughtBy_append, caughtBy_effects, first]
    exact last

theorem asks_announce (session : Session) : Asks Heedless (announce session) := by
  unfold announce
  refine (asks_perform trivial).bind fun _ => ?_
  cases session.child? with
  | none => trivial
  | some child => exact asks_perform trivial

theorem asks_attend (session : Session) (seconds : UInt64) :
    Asks Heedless (attend session (some seconds)) := by
  have waits : Asks Heedless (waitForEnd (some seconds)) :=
    (asks_perform trivial).bind fun _ => asks_perform trivial
  exact (asks_announce session).bind fun _ => waits.bind fun _ => asks_perform trivial

theorem reaches_awaitEnd {next : Kernel.Signal → Procedure Unit}
    (awaits : Reaches awaitEnd since (.request .awaitSignal next)) :
    since = [⟨.catchSignal .terminate, .ok ()⟩, ⟨.catchSignal .interrupt, .ok ()⟩] := by
  have onlyLogs (message : String) {trace : List Exchange} :
      ¬ Reaches (log .error .control message) trace (.request .awaitSignal next) := by
    have asks : Asks Heedless (log .error .control message) := asks_perform trivial
    intro reaches
    exact (asks.reaches reaches).2.1
  cases awaits with
  | request _ _ terminate _ _ awaits =>
    cases terminate with
    | error fault => exact absurd awaits (onlyLogs _)
    | ok u =>
      cases awaits with
      | request _ _ interrupt _ _ awaits =>
        cases interrupt with
        | error fault => exact absurd awaits (onlyLogs _)
        | ok u =>
          cases awaits with
          | here => rfl
          | request _ _ signal _ _ awaits =>
            have asks : Asks Heedless (say ("Received " ++ (signal.name?.getD "") ++ " signal")) :=
              asks_perform trivial
            exact absurd (asks.reaches awaits).2.1 id

theorem caught_of_awaiting {next : Kernel.Signal → Procedure Unit}
    (awaits : Reaches (attend session duration) since (.request .awaitSignal next)) :
    ∀ signal ∈ [Kernel.Signal.terminate, .interrupt], ⟨.catchSignal signal, .ok ()⟩ ∈ since := by
  cases duration with
  | some seconds => exact absurd ((asks_attend session seconds).reaches awaits).2.1 id
  | none =>
    unfold attend at awaits
    rcases reaches_bind_iff.mp awaits with ⟨r, next', inside, same⟩ | ⟨first, rest, u, rfl, -, past⟩
    · cases same
      exact absurd ((asks_announce session).reaches inside).2.1 id
    · have ends : Asks Heedless (say "Shutting down session...") := asks_perform trivial
      rcases reaches_bind_iff.mp past with ⟨r, next', inside, same⟩ | ⟨_, _, u, rfl, -, past⟩
      · cases same
        have both := reaches_awaitEnd inside
        simp [both]
      · exact absurd (ends.reaches past).2.1 id

/-! ### Where the program can end -/

theorem abandons_iff (started : Yields (setUp words) opening (.ok (session, duration))) :
    CanEnd (program words) arriving (opening ++ since) ∧ ¬ ShutdownCalled session duration since ↔
      Attending session duration since ∧
        ∃ signal ∈ arriving, ¬ (duration = none ∧ ⟨.catchSignal signal, .ok ()⟩ ∈ since) := by
  have caught (signal : Kernel.Signal) : signal ∈ caughtBy (opening ++ since) ↔
      ⟨.catchSignal signal, .ok ()⟩ ∈ since := by
    rw [caughtBy_append, caughtBy_setUp started, List.nil_append, mem_caughtBy_iff]
  unfold CanEnd
  constructor
  · rintro ⟨⟨left, reaches, ends⟩, uncalled⟩
    have keeps : Reaches (keep session duration) since left := started.reaches_iff.mp reaches
    rcases reaches_keep_iff.mp keeps with ⟨r, next, inside, rfl⟩ | ⟨first, second, split, yields, -⟩
    · refine ⟨⟨r, next, inside⟩, ?_⟩
      rcases ends with ⟨a, ended⟩ | ⟨signal, arrives, uncaught⟩
      · cases ended
      · exact ⟨signal, arrives, fun guarded => uncaught ((caught signal).mpr guarded.2)⟩
    · exact absurd ⟨first, second, split, yields⟩ uncalled
  · rintro ⟨attending, signal, arrives, unguarded⟩
    refine ⟨?_, attending.not_shutdownCalled⟩
    obtain ⟨r, next, inside⟩ := attending
    refine ⟨_, started.reaches_iff.mpr (reaches_keep_iff.mpr (.inl ⟨r, next, inside, rfl⟩)), ?_⟩
    refine .inr ⟨signal, arrives, fun member => ?_⟩
    have granted := (caught signal).mp member
    cases duration with
    | none => exact unguarded ⟨rfl, granted⟩
    | some seconds => exact ((asks_attend session seconds).reaches inside).1 _ granted

theorem neverAbandons_nil (words : List String) : NeverAbandons words [] := by
  intro opening session duration since started ends
  apply Classical.byContradiction
  intro uncalled
  obtain ⟨-, signal, arrives, -⟩ := (abandons_iff started).mp ⟨ends, uncalled⟩
  cases arrives

/-- The program can end between the start of a session and the call of its shutdown exactly where it
still keeps the session and a signal arrives that it has not caught since then; with a duration it
catches none. Where it waits for a signal, it catches both that it waits for. -/
theorem abandons_iff_uncaught (started : Yields (setUp words) opening (.ok (session, duration))) :
    (CanEnd (program words) arriving (opening ++ since) ∧ ¬ ShutdownCalled session duration since ↔
      Attending session duration since ∧
        ∃ signal ∈ arriving, ¬ (duration = none ∧ ⟨.catchSignal signal, .ok ()⟩ ∈ since)) ∧
    ∀ next, Reaches (attend session duration) since (.request .awaitSignal next) →
      ∀ signal ∈ [Kernel.Signal.terminate, .interrupt], ⟨.catchSignal signal, .ok ()⟩ ∈ since :=
  ⟨abandons_iff started, fun _ => caught_of_awaiting⟩

/-! ### A program with a duration -/

/-- A command line for a child of its own and a session that lasts for five seconds. -/
def timedWords : List String := ["-m", "managed-child", "--run-duration", "5"]

def timedSession : Session :=
  ⟨⟨0, Native.defaultLibrary⟩, .managedChild ⟨⟨7⟩, ⟨[46], 1, rfl⟩⟩ ⟨42, [47], [46]⟩⟩

theorem exists_setUp_timed :
    ∃ opening, Yields (setUp timedWords) opening (.ok (timedSession, some 5)) := by
  have read : Arguments.read timedWords =
      .ok { Arguments.empty with mode := some .managedChild, runDuration := some 5 } := rfl
  have linking : Session.Linking timedSession.library ⟨42, [47], [46]⟩ _
      (.ok ⟨⟨7⟩, ⟨[46], 1, rfl⟩⟩) := .tried ⟨[46], 1, rfl⟩ _ (.ok ⟨7⟩) rfl (.opened ⟨7⟩)
  have startup : Session.Startup (Config.ofMode .managedChild).options .managedChild [] _
      (.ok timedSession) :=
    .started .managedChild timedSession.library _ timedSession.connection rfl
      (.managedChild _ _ (.launched [47] [46] _ _ rfl (.linked 42 _ _ linking)))
  have starts := Session.performs_start_iff.mpr startup
  obtain ⟨opening, yields, -⟩ := (performs_setUp_iff read).mpr
    ⟨[], Config.ofMode .managedChild, none, _, rfl, performs_pure_iff.mpr ⟨rfl, rfl⟩, starts, rfl⟩
  exact ⟨opening, yields⟩

theorem exists_reaches_pause : ∃ since next,
    Reaches (attend timedSession (some 5)) since (.request (.pause 5) next) :=
  ⟨_, _, .request _ _ () _ _ (.request _ _ () _ _ (.request _ _ () _ _ (.here _)))⟩

/-- While the program with a duration lets the time pass, it can be told to terminate, and then it
ends without having called the shutdown of its session. -/
theorem abandons_in_pause : ∃ opening since next,
    Yields (setUp timedWords) opening (.ok (timedSession, some 5)) ∧
      Reaches (attend timedSession (some 5)) since (.request (.pause 5) next) ∧
      CanEnd (program timedWords) [.terminate] (opening ++ since) ∧
      ¬ ShutdownCalled timedSession (some 5) since := by
  obtain ⟨opening, started⟩ := exists_setUp_timed
  obtain ⟨since, next, pauses⟩ := exists_reaches_pause
  refine ⟨opening, since, next, started, pauses, ?_⟩
  apply (abandons_iff_uncaught started).1.mpr
  exact ⟨⟨_, next, pauses⟩, .terminate, List.mem_singleton.mpr rfl, fun guarded => nomatch guarded.1⟩

theorem not_neverAbandons_timed : ¬ NeverAbandons timedWords [.terminate, .interrupt] := by
  intro never
  obtain ⟨opening, started⟩ := exists_setUp_timed
  obtain ⟨since, next, pauses⟩ := exists_reaches_pause
  obtain ⟨ends, uncalled⟩ := (abandons_iff started).mpr
    ⟨⟨_, next, pauses⟩, Kernel.Signal.terminate, List.mem_cons_self (l := [.interrupt]),
      fun guarded => nomatch guarded.1⟩
  exact uncalled (never opening timedSession (some 5) since started ends)

end Control

end HostEngine
