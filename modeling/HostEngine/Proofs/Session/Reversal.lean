import HostEngine.Proofs.Session.Startup
import HostEngine.Proofs.Session.Teardown
/-!
# A shutdown reverses the start

`Session.opening` lists what a start does when it ends with a session, and `undoing` says which
requests take one step of it back. A shutdown in which nothing fails takes the steps of the start
back one by one, the last first.
-/
set_option autoImplicit false

namespace HostEngine.Session

open Procedure

def reached (library : Native.Library)
    (ask : Except Native.Failure Native.Handle → Exchange) (handle : Native.Handle) :
    List Exchange :=
  [.called library .init (.ok ()), ask (.ok handle)]

def birth (options : ChildOptions) (child : Child) : List Exchange :=
  [⟨.find options.executable options.searchPath, .ok child.executable⟩,
    ⟨.reserve options.scratchDirectory options.socketStem, .ok child.socketPath⟩,
    ⟨.spawn child.executable [.ofString socketArgument, child.socketPath], .ok child.pid⟩]

/-- The exchanges by which a connection comes about. -/
def joining (options : ChildOptions) (library : Native.Library) : Connection → List Exchange
  | .embedded handle => reached library (startExchange library) handle
  | .standalone link => reached library (connectExchange library link.target) link.handle
  | .managedChild link child =>
    birth options child ++ reached library (connectExchange library link.target) link.handle

/-- The exchanges of a start that ended with this session. -/
def opening (options : Options) (session : Session) : List Exchange :=
  ⟨.load options.library, .ok session.library⟩ ::
    joining options.child session.library session.connection

/-- The requests that take an exchange of a start back. -/
def undoing : Exchange → List Request
  | ⟨.load _, .ok library⟩ => [.unload library]
  | ⟨.call library .init, .ok _⟩ => [.call library .shutdown]
  | ⟨.call library (.startEmbedded _), .ok handle⟩ => [.call library (.stopEmbedded handle)]
  | ⟨.call library (.connect _ _), .ok handle⟩ => [.call library (.disconnect handle)]
  | ⟨.reserve _ _, .ok path⟩ => [.remove path]
  | ⟨.spawn program _, .ok pid⟩ =>
    [.runToEnd program [.ofString terminateArgument],
      .signal (Program.kernelPid pid) (some .kill), .wait pid]
  | _ => []

def Plan.mode : Plan → Mode
  | .embedded => .embedded
  | .standalone _ => .standalone
  | .managedChild => .managedChild

/-! ### Starts that succeed -/

variable {library : Native.Library} {done : List Exchange}

theorem Plan.mode_of_make {mode : Mode} {args : List String} {plan : Plan}
    (planned : Plan.make mode args = .ok plan) : plan.mode = mode := by
  cases mode with
  | embedded =>
    cases planned
    rfl
  | standalone =>
    simp only [Plan.make] at planned
    cases parsed : Target.ofArgs args with
    | error failure =>
      rw [parsed] at planned
      cases planned
    | ok target =>
      rw [parsed] at planned
      cases planned
      rfl
  | managedChild =>
    cases planned
    rfl

theorem Opening.eq_reached {ask : Except Native.Failure Native.Handle → Exchange}
    {step : NativeStep} {handle : Native.Handle}
    (opening : Opening library ask step done (.ok handle)) : done = reached library ask handle := by
  cases opening with
  | opened handle => rfl

theorem Linking.eq_reached {child : Child} {link : Link}
    (linking : Linking library child done (.ok link)) :
    done = reached library (connectExchange library link.target) link.handle := by
  generalize result : Except.ok link = linked at linking
  cases linking with
  | unaddressed failure refused => cases result
  | tried target _ reply addressed opening =>
    cases reply with
    | error failure => cases result
    | ok handle =>
      cases result
      exact opening.eq_reached

theorem ChildStart.eq_joining {options : ChildOptions} {connection : Connection}
    (start : ChildStart library options done (.ok connection)) :
    done = joining options library connection ∧ connection.mode = .managedChild := by
  cases start with
  | launched executable path rest _ named launching =>
    cases launching with
    | linked pid rest link linking =>
      rw [linking.eq_reached]
      exact ⟨rfl, rfl⟩

theorem Following.eq_joining {options : ChildOptions} {plan : Plan} {connection : Connection}
    (following : Following library options plan done (.ok connection)) :
    done = joining options library connection ∧ connection.mode = plan.mode := by
  generalize result : Except.ok connection = connected at following
  cases following with
  | embedded _ reply opening =>
    cases reply with
    | error failure => cases result
    | ok handle =>
      cases result
      exact ⟨opening.eq_reached, rfl⟩
  | standalone target _ reply opening =>
    cases reply with
    | error failure => cases result
    | ok handle =>
      cases result
      exact ⟨opening.eq_reached, rfl⟩
  | managedChild _ _ childStart =>
    cases result
    exact childStart.eq_joining

theorem Startup.eq_opening {options : Options} {mode : Mode} {args : List String}
    {session : Session} (startup : Startup options mode args done (.ok session)) :
    done = session.opening options ∧ session.mode = mode := by
  cases startup with
  | started plan library rest connection planned following =>
    obtain ⟨rfl, kind⟩ := following.eq_joining
    exact ⟨rfl, kind.trans (Plan.mode_of_make planned)⟩

/-! ### The way back -/

/-- A step that does not fail leads to all those after it. -/
theorem dismissal_of_isKilled {child : Child} {closing : Closing}
    (killed : closing.isKilled = true) :
    (dismissal child closing).map (·.request) =
      undoing ⟨.spawn child.executable [.ofString socketArgument, child.socketPath],
        .ok child.pid⟩ := by
  have asked : closing.isAsked = true := (Bool.and_eq_true_iff.mp killed).1
  have down : closing.isDown = true := (Bool.and_eq_true_iff.mp asked).1
  simp only [dismissal, killed, asked, down, if_true]
  rfl

theorem teardown_eq_reverse (options : Options) {session : Session} {closing : Closing}
    (killed : closing.isKilled = true) :
    (session.teardown closing).map (·.request) =
      (session.opening options).reverse.flatMap undoing := by
  have asked : closing.isAsked = true := (Bool.and_eq_true_iff.mp killed).1
  have down : closing.isDown = true := (Bool.and_eq_true_iff.mp asked).1
  have closed : closing.close.isOk = true := (Bool.and_eq_true_iff.mp down).1
  obtain ⟨library, connection⟩ := session
  cases connection with
  | embedded handle =>
    simp only [teardown, lowering, bereaving, closed, if_true]
    rfl
  | standalone link =>
    simp only [teardown, lowering, bereaving, closed, if_true]
    rfl
  | managedChild link child =>
    have dismissed : (dismissal child closing).map _ = _ := dismissal_of_isKilled killed
    have fields : (⟨library, .managedChild link child⟩ : Session).child? = some child := rfl
    simp only [teardown, lowering, bereaving, closed, if_true, fields, List.map_append, dismissed]
    rfl

/-- Whatever session a start ends with, it is of the mode asked for, so that the connection to take
down is the one this mode makes. The start made the exchanges of `opening`. A shutdown of the
session can make the exchanges of `teardown` for each way its steps can end, with the first failure
as its result, and nothing else; if none of them fails, these take the start back step by step. -/
theorem shutdown_reverses_start {options : Options} {mode : Mode} {args : List String}
    {trace : List Exchange} {session : Session}
    (started : Yields (start options mode args) trace (.ok session)) :
    session.connection.mode = mode ∧
    effects trace = session.opening options ∧
    (∀ done result, session.shutdown.Performs done result ↔
      ∃ closing : Closing, done = session.teardown closing ∧ result = session.outcome closing) ∧
    ∀ closing : Closing, closing.isKilled = true →
      (session.teardown closing).map (·.request) = (effects trace).reverse.flatMap undoing := by
  obtain ⟨opened, kind⟩ := (performs_start_iff.mp started.performs).eq_opening
  refine ⟨kind, opened, fun done result => performs_shutdown_iff, fun closing killed => ?_⟩
  rw [opened]
  exact teardown_eq_reverse options killed

/-- A start with the default options that leads to a managed child, and the way back from it. -/
theorem shutdown_reverses_start_of_child :
    let session : Session :=
      ⟨⟨0, Native.defaultLibrary⟩, .managedChild ⟨⟨7⟩, ⟨[46], 1, rfl⟩⟩ ⟨42, [47], [46]⟩⟩
    ∃ trace, Yields (start .default .managedChild []) trace (.ok session) ∧
      effects trace = session.opening .default ∧
      (session.teardown .smooth).map (·.request) = (effects trace).reverse.flatMap undoing := by
  intro session
  have linking : Linking session.library ⟨42, [47], [46]⟩ _ (.ok ⟨⟨7⟩, ⟨[46], 1, rfl⟩⟩) :=
    .tried ⟨[46], 1, rfl⟩ _ (.ok ⟨7⟩) rfl (.opened ⟨7⟩)
  have startup : Startup .default .managedChild [] _ (.ok session) :=
    .started .managedChild session.library _ session.connection rfl
      (.managedChild _ _ (.launched [47] [46] _ _ rfl (.linked 42 _ _ linking)))
  obtain ⟨trace, started, -⟩ := performs_start_iff.mpr startup
  obtain ⟨-, opened, -, reversed⟩ := shutdown_reverses_start started
  exact ⟨trace, started, opened, reversed .smooth rfl⟩

end HostEngine.Session
