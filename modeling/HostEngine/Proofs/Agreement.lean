import HostEngine.Proofs.Effects
import HostEngine.Proofs.Stages
import HostEngine.Session.Start
/-!
# Procedures that agree

Two procedures agree if they make the same requests, whatever is replied, and go on to agree when
calls of the library fail with the same code; what they log, and the texts of failures, may differ.
A start and a shutdown agree with themselves, so nothing in them turns on the text of a failure.
-/
set_option autoImplicit false

namespace HostEngine

/-- The same success, or failures of the same kind with the same native code. -/
inductive SameOutcome {α : Type} : Except Failure α → Except Failure α → Prop
  | ok (a : α) : SameOutcome (.ok a) (.ok a)
  | error {first second : Failure} (kind : first.kind = second.kind)
      (code : first.native?.map (·.code) = second.native?.map (·.code)) :
      SameOutcome (.error first) (.error second)

variable {α β : Type}

theorem SameOutcome.refl (result : Except Failure α) : SameOutcome result result := by
  cases result with
  | ok a => exact .ok a
  | error failure => exact .error rfl rfl

theorem SameOutcome.native {step : NativeStep} {first second : Native.Failure}
    (code : first.code = second.code) :
    SameOutcome (α := α) (.error (.native step first)) (.error (.native step second)) :=
  .error rfl (congrArg some code)

/-- The request is not made of the native libraries. -/
def Request.Foreign : Request → Prop
  | .load _ | .call _ _ | .unload _ | .discard _ => False
  | _ => True

/-- The two procedures make the same requests apart from what they log, as long as a library with
the name can be loaded and closed, and end with results that are related. The library that is loaded,
if one is, comes before the procedures, and in the relation before the results. -/
inductive Agree (name : String) (related : Option Native.Library → α → α → Prop) :
    Option Native.Library → Procedure α → Procedure α → Prop
  | done {held : Option Native.Library} {a b : α} (ends : related held a b) :
    Agree name related held (.done a) (.done b)
  | log {held : Option Native.Library} {event event' : Log.Event} {next next' : Unit → Procedure α}
      (goes : Agree name related held (next ()) (next' ())) :
    Agree name related held (.request (.log event) next) (.request (.log event') next')
  | load {next next' : Except String Native.Library → Procedure α}
      (goes : ∀ library,
        Agree name related (some library) (next (.ok library)) (next' (.ok library))) :
    Agree name related none (.request (.load name) next) (.request (.load name) next')
  | call {library : Native.Library} {called : Native.Call}
      {next next' : Except Native.Failure called.Value → Procedure α}
      (succeeds : ∀ value, Agree name related (some library) (next (.ok value)) (next' (.ok value)))
      (fails : ∀ failure failure' : Native.Failure, failure.code = failure'.code →
        Agree name related (some library) (next (.error failure)) (next' (.error failure'))) :
    Agree name related (some library) (.request (.call library called) next)
      (.request (.call library called) next')
  | unload {library : Native.Library} {next next' : Except String Unit → Procedure α}
      (goes : Agree name related none (next (.ok ())) (next' (.ok ()))) :
    Agree name related (some library) (.request (.unload library) next)
      (.request (.unload library) next')
  | other {held : Option Native.Library} {r : Request} (foreign : r.Foreign)
      {next next' : r.Reply → Procedure α}
      (goes : ∀ reply, Agree name related held (next reply) (next' reply)) :
    Agree name related held (.request r next) (.request r next')

namespace Agree

open Procedure

variable {name : String} {related : Option Native.Library → α → α → Prop}
  {relatedAfter : Option Native.Library → β → β → Prop} {held : Option Native.Library}
  {p q : Procedure α}

theorem bind {go go' : α → Procedure β} (agree : Agree name related held p q)
    (goes : ∀ held a b, related held a b → Agree name relatedAfter held (go a) (go' b)) :
    Agree name relatedAfter held (p >>= go) (q >>= go') := by
  induction agree with
  | done ends => exact goes _ _ _ ends
  | log _ ih => exact .log ih
  | load _ ih => exact .load ih
  | call _ _ ihOk ihError => exact .call ihOk ihError
  | unload _ ih => exact .unload ih
  | other foreign _ ih => exact .other foreign ih

theorem of_foreign (asks : p.Asks Request.Foreign) :
    Agree name (fun after a b => after = held ∧ a = b) held p p := by
  induction p with
  | done result => exact .done ⟨rfl, rfl⟩
  | request r next ih => exact .other asks.1 fun reply => ih reply (asks.2 reply)

end Agree

/-! ### Foreign procedures -/

open Procedure

namespace Program

theorem asks_find (searched : String) (searchPath : Option String) :
    (find searched searchPath).Asks Request.Foreign := by
  unfold find
  split
  · trivial
  · refine (asks_perform trivial).bind fun reply => ?_
    cases reply with
    | ok path => trivial
    | error reason => trivial

theorem asks_spawn (program : Octets) (arguments : List Octets) :
    (spawn program arguments).Asks Request.Foreign := by
  refine (asks_perform trivial).bind fun reply => ?_
  cases reply with
  | ok pid => exact (asks_perform trivial).bind fun _ => trivial
  | error fault => trivial

theorem asks_runToEnd (program : Octets) (arguments : List Octets) :
    (runToEnd program arguments).Asks Request.Foreign := by
  refine (asks_perform trivial).bind fun reply => ?_
  cases reply with
  | ok exit =>
    dsimp only
    split
    · trivial
    · trivial
  | error fault => trivial

theorem asks_forceKill (pid : UInt32) : (forceKill pid).Asks Request.Foreign := by
  refine (asks_perform trivial).bind fun reply => ?_
  cases reply with
  | ok u => trivial
  | error errno => trivial

end Program

namespace Session

theorem asks_log (level : Log.Level) (origin : Log.Origin) (message : String) :
    (log level origin message).Asks Request.Foreign :=
  asks_perform trivial

theorem asks_reap (child : Child) : (reap child).Asks Request.Foreign := by
  refine (asks_perform trivial).bind fun reply => ?_
  cases reply with
  | ok exit => exact asks_log _ _ _
  | error fault => exact asks_log _ _ _

theorem asks_removeSocket (child : Child) : (removeSocket child).Asks Request.Foreign := by
  refine (asks_perform trivial).bind fun reply => ?_
  cases reply with
  | ok u => exact asks_log _ _ _
  | error fault =>
    dsimp only
    split
    · exact asks_log _ _ _
    · exact asks_log _ _ _

theorem asks_killChild (child : Child) : (killChild child).Asks Request.Foreign := by
  refine (Program.asks_forceKill child.pid).bind fun killed => ?_
  cases killed with
  | ok u => exact asks_reap child
  | error failure => exact asks_log _ _ _

theorem asks_abort (child : Child) : (abort child).Asks Request.Foreign :=
  (asks_log _ _ _).bind fun _ => (asks_killChild child).bind fun _ => asks_removeSocket child

theorem asks_terminate (child : Child) : (terminate child).Asks Request.Foreign := by
  refine (Program.asks_runToEnd _ _).bind fun asked => ?_
  cases asked with
  | error failure => trivial
  | ok u =>
    refine (asks_log _ _ _).bind fun _ => (Program.asks_forceKill child.pid).bind fun killed => ?_
    cases killed with
    | error failure => trivial
    | ok u => exact (asks_reap child).bind fun _ => trivial

/-! ### Starts -/

variable {name : String} {library : Native.Library} {go go' : α → Procedure (Except Failure β)}

/-- The library stays loaded, and the outcomes are the same. -/
def Kept (library : Native.Library) (held : Option Native.Library) (a b : Except Failure α) :
    Prop :=
  held = some library ∧ SameOutcome a b

abbrev AgreeOn (name : String) (library : Native.Library) (p q : Procedure (Except Failure α)) :
    Prop :=
  Agree name (Kept library) (some library) p q

theorem agree_pure {first second : Except Failure α} (same : SameOutcome first second) :
    AgreeOn name library (pure first) (pure second) :=
  .done ⟨rfl, same⟩

theorem agree_foreign {p : Procedure α} (asks : p.Asks Request.Foreign)
    (goes : ∀ a, AgreeOn name library (go a) (go' a)) :
    AgreeOn name library (p >>= go) (p >>= go') := by
  refine (Agree.of_foreign asks).bind ?_
  rintro _ a _ ⟨rfl, rfl⟩
  exact goes a

/-- A call that fails leads to the same outcome, whatever is said of it. -/
theorem agree_call {called : Native.Call} {step : NativeStep}
    {go : Except Native.Failure called.Value → Procedure (Except Failure α)}
    (succeeds : ∀ value, AgreeOn name library (go (.ok value)) (go (.ok value)))
    (fails : ∀ failure, go (.error failure) = pure (.error (.native step failure))) :
    AgreeOn name library (perform (.call library called) >>= go)
      (perform (.call library called) >>= go) := by
  have failed (failure failure' : Native.Failure) (code : failure.code = failure'.code) :
      AgreeOn name library (go (.error failure)) (go (.error failure')) := by
    rw [fails, fails]
    exact agree_pure (.native code)
  exact .call succeeds failed

theorem agree_bind {p : Procedure (Except Failure α)}
    {go : Except Failure α → Procedure (Except Failure β)} (agree : AgreeOn name library p p)
    (succeeds : ∀ a, AgreeOn name library (go (.ok a)) (go (.ok a)))
    (fails : ∀ first second : Failure, SameOutcome (α := β) (.error first) (.error second) →
      AgreeOn name library (go (.error first)) (go (.error second))) :
    AgreeOn name library (p >>= go) (p >>= go) := by
  refine agree.bind ?_
  rintro _ first second ⟨rfl, same⟩
  cases same with
  | ok a => exact succeeds a
  | error kind code => exact fails _ _ (.error kind code)

theorem agree_withInit {start : Procedure (Except Failure α)}
    (starts : AgreeOn name library start start) :
    AgreeOn name library (withInit library start) (withInit library start) := by
  refine agree_call (fun _ => ?_) fun _ => rfl
  refine agree_bind starts (fun _ => agree_pure (.refl _)) fun first second same => ?_
  refine .call (fun _ => agree_pure same) fun failure failure' _ => ?_
  exact .log (agree_pure same)

theorem agree_startEmbedded :
    AgreeOn name library (startEmbedded library) (startEmbedded library) := by
  refine agree_bind ?_ (fun _ => ?_) fun _ _ same => agree_pure same
  · refine agree_withInit (agree_call (fun _ => ?_) fun _ => rfl)
    exact agree_pure (.refl _)
  · exact .log (agree_pure (.refl _))

theorem agree_connect (target : Target) :
    AgreeOn name library (connect library target) (connect library target) := by
  refine agree_bind ?_ (fun _ => ?_) fun _ _ same => agree_pure same
  · refine agree_withInit (.log (agree_call (fun _ => ?_) fun _ => rfl))
    exact agree_pure (.refl _)
  · exact .log (agree_pure (.refl _))

theorem agree_connectChild (child : Child) :
    AgreeOn name library (connectChild library child) (connectChild library child) := by
  unfold connectChild
  split
  · exact agree_pure (.refl _)
  · exact agree_connect _

theorem agree_adopt (child : Child) :
    AgreeOn name library (adopt library child) (adopt library child) := by
  refine agree_bind (agree_connectChild child) (fun _ => agree_pure (.refl _)) ?_
  intro first second same
  exact agree_foreign (asks_abort child) fun _ => agree_pure same

theorem agree_launch (executable path : Octets) :
    AgreeOn name library (launch library executable path) (launch library executable path) := by
  refine agree_foreign (Program.asks_spawn _ _) fun spawned => ?_
  cases spawned with
  | error failure =>
    refine .other ?_ fun _ => agree_pure (.refl _)
    trivial
  | ok pid => exact .log (agree_adopt _)

theorem agree_startChild (options : ChildOptions) :
    AgreeOn name library (startChild library options) (startChild library options) := by
  refine agree_foreign (Program.asks_find _ _) fun found => ?_
  cases found with
  | error failure => exact agree_pure (.refl _)
  | ok executable =>
    refine .log (.other ?_ fun reserved => ?_)
    · trivial
    · cases reserved with
      | error fault => exact agree_pure (.refl _)
      | ok path => exact agree_launch executable path

theorem agree_map {p : Procedure (Except Failure α)} (agree : AgreeOn name library p p)
    (f : α → β) :
    AgreeOn name library (p >>= fun a => pure (a.map f)) (p >>= fun a => pure (a.map f)) :=
  agree_bind agree (fun _ => agree_pure (.refl _)) fun _ _ same => agree_pure same

theorem agree_follow (options : ChildOptions) (plan : Plan) :
    AgreeOn name library (follow library options plan) (follow library options plan) := by
  cases plan with
  | embedded => exact agree_map agree_startEmbedded _
  | standalone target => exact agree_map (agree_connect target) _
  | managedChild => exact agree_startChild options

/-- What a start leaves behind: the library of the session, if it ends with one. -/
inductive Begun : Option Native.Library → Except Failure Session → Except Failure Session → Prop
  | session (session : Session) : Begun (some session.library) (.ok session) (.ok session)
  | failure {first second : Failure}
      (same : SameOutcome (α := Session) (.error first) (.error second)) :
    Begun none (.error first) (.error second)

theorem agree_start (options : Options) (mode : Mode) (args : List String) :
    Agree options.library Begun none (start options mode args) (start options mode args) := by
  unfold start
  split
  · exact .done (.failure (.refl _))
  · rename_i plan _
    refine .log (.load fun library => .log ?_)
    refine (agree_follow options.child plan).bind ?_
    rintro _ first second ⟨rfl, same⟩
    cases same with
    | ok connection => exact .log (.done (.session ⟨library, connection⟩))
    | error kind code => exact .log (.unload (.log (.done (.failure (.error kind code)))))

/-! ### Shutdowns -/

theorem agree_shutdownLibrary :
    AgreeOn name library (shutdownLibrary library) (shutdownLibrary library) :=
  agree_call (fun _ => agree_pure (.refl _)) fun _ => rfl

theorem agree_stopEmbedded (handle : Native.Handle) :
    AgreeOn name library (stopEmbedded library handle) (stopEmbedded library handle) :=
  agree_call (fun _ => .log agree_shutdownLibrary) fun _ => rfl

theorem agree_disconnect (link : Link) :
    AgreeOn name library (disconnect library link) (disconnect library link) :=
  agree_call (fun _ => .log agree_shutdownLibrary) fun _ => rfl

theorem agree_stopChild (link : Link) (child : Child) :
    AgreeOn name library (stopChild library link child) (stopChild library link child) := by
  have parts : AgreeOn name library (disconnectChild library link child)
      (disconnectChild library link child) := by
    refine agree_bind (agree_disconnect link) (fun _ => ?_) fun _ _ same => agree_pure same
    have ends : AgreeOn name library (terminate child >>= pure) (terminate child >>= pure) :=
      agree_foreign (asks_terminate child) fun a => agree_pure (.refl a)
    rwa [bind_pure] at ends
  have removes (first second : Except Failure Unit) (same : SameOutcome first second) :
      AgreeOn name library (removeSocket child >>= fun _ => pure first)
        (removeSocket child >>= fun _ => pure second) :=
    agree_foreign (asks_removeSocket child) fun _ => agree_pure same
  refine parts.bind ?_
  rintro _ first second ⟨rfl, same⟩
  exact removes first second same

theorem agree_takeDown (connection : Connection) :
    AgreeOn name library (takeDown library connection) (takeDown library connection) := by
  cases connection with
  | embedded handle => exact agree_stopEmbedded handle
  | standalone link => exact agree_disconnect link
  | managedChild link child => exact agree_stopChild link child

theorem agree_shutdown (session : Session) :
    Agree name (fun held first second => held = none ∧ SameOutcome first second)
      (some session.library) session.shutdown session.shutdown := by
  refine .log ((agree_takeDown session.connection).bind ?_)
  rintro _ first second ⟨rfl, same⟩
  refine .unload (.log ?_)
  cases same with
  | ok u => exact .log (.done ⟨rfl, .refl _⟩)
  | error kind code => exact .log (.done ⟨rfl, .error kind code⟩)

end Session

end HostEngine
