import HostEngine.Proofs.Fleet
import HostEngine.Proofs.Session.Reversal
/-!
# The call protocol of a library

Which calls a loaded library may get, and when it may be closed, by what was done to it before
(`Permitted`). However many sessions there are, and whatever the libraries answer, everything that a
fleet does to a library it loaded is permitted. Each library is used by the caller that loaded it
only, so this comes down to a fact about one life.
-/
set_option autoImplicit false

namespace HostEngine

namespace Exchange

@[simp] def function? : Exchange → Option Native.Call.Function
  | ⟨.call _ call, _⟩ => some call.function
  | _ => none

/-- Whether a library was let go of, with or without a report. -/
@[simp] def isRelease : Exchange → Bool
  | ⟨.unload _, _⟩ | ⟨.discard _, _⟩ => true
  | _ => false

@[simp] def started? : Exchange → Option Native.Handle
  | ⟨.call _ (.startEmbedded _), .ok handle⟩ => some handle
  | _ => none

@[simp] def stopped? : Exchange → Option Native.Handle
  | ⟨.call _ (.stopEmbedded handle), .ok _⟩ => some handle
  | _ => none

@[simp] def connected? : Exchange → Option Native.Handle
  | ⟨.call _ (.connect _ _), .ok handle⟩ => some handle
  | _ => none

@[simp] def disconnected? : Exchange → Option Native.Handle
  | ⟨.call _ (.disconnect handle), .ok _⟩ => some handle
  | _ => none

end Exchange

def uses (library : Native.Library) (trace : List Exchange) : List Exchange :=
  trace.filter (·.used? = some library)

def Called (function : Native.Call.Function) (past : List Exchange) : Prop :=
  some function ∈ past.map Exchange.function?

/-- What may be done to a library after all that was done to it before. Nothing follows its release.
The library is initialized first of all. One attempt is made to start or connect, after the
initialization succeeded. Only what succeeded is taken back, once, by the handle that it returned.
The library is shut down once, after its initialization, and not while a handle is open. -/
def Permitted (past : List Exchange) (use : Exchange) : Prop :=
  (∀ exchange ∈ past, exchange.isRelease = false) ∧
  match use.request with
  | .call _ .init => past = []
  | .call _ (.startEmbedded _) | .call _ (.connect _ _) =>
    (∃ exchange ∈ past, exchange.isInitialized = true) ∧
      ¬ Called .startEmbedded past ∧ ¬ Called .connect past
  | .call _ (.stopEmbedded handle) =>
    some handle ∈ past.map Exchange.started? ∧ ¬ Called .stopEmbedded past
  | .call _ (.disconnect handle) =>
    some handle ∈ past.map Exchange.connected? ∧ ¬ Called .disconnect past
  | .call _ .shutdown =>
    (∃ exchange ∈ past, exchange.isInitialized = true) ∧ ¬ Called .shutdown past ∧
      (∀ handle, some handle ∈ past.map Exchange.started? →
        some handle ∈ past.map Exchange.stopped?) ∧
      ∀ handle, some handle ∈ past.map Exchange.connected? →
        some handle ∈ past.map Exchange.disconnected?
  | _ => True

theorem uses_append (library : Native.Library) (first second : List Exchange) :
    uses library (first ++ second) = uses library first ++ uses library second :=
  List.filter_append first second

theorem uses_effects (library : Native.Library) (trace : List Exchange) :
    uses library (effects trace) = uses library trace := by
  unfold uses effects
  rw [List.filter_filter]
  apply List.filter_congr
  rintro ⟨request, reply⟩ member
  cases request with
  | log event => rfl
  | _ => exact Bool.and_true _

theorem uses_eq_nil {library : Native.Library} {trace : List Exchange}
    (unused : ∀ exchange ∈ trace, exchange.used? ≠ some library) : uses library trace = [] := by
  unfold uses
  rw [List.filter_eq_nil_iff]
  intro exchange member used
  exact unused exchange member (of_decide_eq_true used)

namespace Session

theorem Calls.uses_eq {library : Native.Library} {done : List Exchange}
    (calls : Calls library done) : uses library done = done := by
  unfold uses
  rw [List.filter_eq_self]
  intro exchange member
  obtain ⟨call, reply, rfl⟩ := calls exchange member
  exact decide_eq_true rfl

/-! ### Failed starts -/

/-- What a failed attempt to open a library does to it, closing it included. -/
theorem Opening.follows {library : Native.Library}
    {ask : Except Native.Failure Native.Handle → Exchange} {step : NativeStep}
    {done : List Exchange} {failure : Failure} (asking : Asking library ask)
    (opening : Opening library ask step done (.error failure)) (unload : Except String Unit) :
    Obeys Permitted [] (uses library done ++ [⟨.unload library, unload⟩]) := by
  rw [(opening.calls asking).uses_eq]
  cases opening with
  | uninitialized native => simp [Obeys, Permitted]
  | unopened native shutdown =>
    cases asking with
    | start =>
      simp [Obeys, Permitted, Called, startExchange, Native.Call.function]
    | connect target =>
      simp [Obeys, Permitted, Called, connectExchange, Native.Call.function]

theorem follows_unload {library : Native.Library} {done : List Exchange}
    (unused : uses library done = []) (unload : Except String Unit) :
    Obeys Permitted [] (uses library done ++ [⟨.unload library, unload⟩]) := by
  rw [unused]
  simp [Obeys, Permitted]

theorem Linking.follows {library : Native.Library} {child : Child} {done : List Exchange}
    {failure : Failure} (linking : Linking library child done (.error failure))
    (unload : Except String Unit) :
    Obeys Permitted [] (uses library done ++ [⟨.unload library, unload⟩]) := by
  rcases linking.of_failed with rfl | ⟨target, opening⟩
  · exact follows_unload rfl unload
  · exact opening.follows (.connect target) unload

theorem uses_killing (library : Native.Library) (pid : UInt32) (kill : Except Kernel.Errno Unit)
    (reap : Except Kernel.Fault Kernel.Exit) : uses library (killing pid kill reap) = [] := by
  cases kill with
  | ok u => rfl
  | error errno => rfl

theorem Launching.follows {library : Native.Library} {executable path : Octets}
    {done : List Exchange} {failure : Failure}
    (launching : Launching library executable path done (.error failure))
    (unload : Except String Unit) :
    Obeys Permitted [] (uses library done ++ [⟨.unload library, unload⟩]) := by
  cases launching with
  | unspawned fault remove => exact follows_unload rfl unload
  | aborted pid rest _ kill reap remove linking =>
    have same : uses library (⟨.spawn executable [.ofString socketArgument, path], .ok pid⟩ ::
        (rest ++ (killing pid kill reap ++ [⟨.remove path, remove⟩]))) = uses library rest := by
      rw [← List.singleton_append, uses_append, uses_append, uses_append, uses_killing]
      exact List.append_nil _
    rw [same]
    exact linking.follows unload

theorem Following.follows {library : Native.Library} {options : ChildOptions} {plan : Plan}
    {done : List Exchange} {failure : Failure}
    (following : Following library options plan done (.error failure))
    (unload : Except String Unit) :
    Obeys Permitted [] (uses library done ++ [⟨.unload library, unload⟩]) := by
  rcases following.of_failed with ⟨ask, step, asking, opening⟩ | childStart
  · exact opening.follows asking unload
  · cases childStart with
    | unnamed empty => exact follows_unload rfl unload
    | unfound reason named => exact follows_unload rfl unload
    | unreserved executable fault named => exact follows_unload rfl unload
    | launched executable path rest _ named launching => exact launching.follows unload

/-! ### Sessions -/

theorem uses_reached {library : Native.Library}
    {ask : Except Native.Failure Native.Handle → Exchange} (asking : Asking library ask)
    (handle : Native.Handle) :
    uses library (reached library ask handle) = reached library ask handle := by
  have opening : Opening library ask .start (reached library ask handle) (.ok handle) :=
    .opened handle
  exact (opening.calls asking).uses_eq

theorem uses_opening (options : Options) (session : Session) :
    uses session.library (session.opening options) =
      match session.connection with
      | .embedded handle => reached session.library (startExchange session.library) handle
      | .standalone link | .managedChild link _ =>
        reached session.library (connectExchange session.library link.target) link.handle := by
  obtain ⟨library, connection⟩ := session
  cases connection with
  | embedded handle => exact uses_reached .start handle
  | standalone link => exact uses_reached (.connect link.target) link.handle
  | managedChild link child => exact uses_reached (.connect link.target) link.handle

theorem uses_dismissal (library : Native.Library) (child : Child) (closing : Closing) :
    uses library (dismissal child closing) = [] := by
  unfold dismissal
  rw [uses_append, uses_append]
  cases closing.isDown <;> cases closing.isAsked <;> cases closing.isKilled <;> rfl

theorem uses_bereaving (library : Native.Library) (session : Session) (closing : Closing) :
    uses library (session.bereaving closing) = [] := by
  unfold bereaving
  cases session.child? with
  | none => rfl
  | some child =>
    rw [uses_append, uses_dismissal]
    rfl

theorem uses_teardown (session : Session) (closing : Closing) :
    uses session.library (session.teardown closing) =
      [session.closeExchange closing.close] ++
        (if closing.close.isOk then [.called session.library .shutdown closing.shutdown] else []) ++
        [⟨.unload session.library, closing.unload⟩] := by
  have closes : Calls session.library [session.closeExchange closing.close] := by
    unfold Calls closeExchange
    rw [List.forall_mem_singleton]
    cases session.connection with
    | embedded handle => exact ⟨_, _, rfl⟩
    | standalone link => exact ⟨_, _, rfl⟩
    | managedChild link child => exact ⟨_, _, rfl⟩
  have shuts : Calls session.library
      (if closing.close.isOk then [.called session.library .shutdown closing.shutdown] else []) := by
    unfold Calls
    cases closing.close.isOk with
    | true => exact List.forall_mem_singleton.mpr ⟨_, _, rfl⟩
    | false => exact List.forall_mem_nil _
  have unloads : uses session.library [⟨.unload session.library, closing.unload⟩] =
      [⟨.unload session.library, closing.unload⟩] := List.filter_cons_of_pos (decide_eq_true rfl)
  unfold teardown lowering
  rw [uses_append, uses_append, uses_append, closes.uses_eq, shuts.uses_eq, uses_bereaving,
    List.append_nil, unloads]

theorem uses_dropping (session : Session) (removed : Except Kernel.Fault Unit) :
    uses session.library (session.dropping removed) = [⟨.discard session.library, ()⟩] := by
  obtain ⟨library, connection⟩ := session
  cases connection with
  | embedded handle => exact List.filter_cons_of_pos (decide_eq_true rfl)
  | standalone link => exact List.filter_cons_of_pos (decide_eq_true rfl)
  | managedChild link child => exact List.filter_cons_of_pos (decide_eq_true rfl)

theorem follows_of_embedded (library : Native.Library) (handle : Native.Handle)
    (close shutdown : Except Native.Failure Unit) (unload : Except String Unit) :
    Obeys Permitted [] (reached library (startExchange library) handle ++
      ([.called library (.stopEmbedded handle) close] ++
        (if close.isOk then [.called library .shutdown shutdown] else []) ++
        [⟨.unload library, unload⟩])) := by
  cases close with
  | ok u =>
    simp [Obeys, Permitted, Called, reached, startExchange, Native.Call.function, Except.isOk,
      Except.toBool]
  | error failure =>
    simp [Obeys, Permitted, Called, reached, startExchange, Native.Call.function, Except.isOk,
      Except.toBool]

theorem follows_of_link (library : Native.Library) (link : Link)
    (close shutdown : Except Native.Failure Unit) (unload : Except String Unit) :
    Obeys Permitted [] (reached library (connectExchange library link.target) link.handle ++
      ([.called library (.disconnect link.handle) close] ++
        (if close.isOk then [.called library .shutdown shutdown] else []) ++
        [⟨.unload library, unload⟩])) := by
  cases close with
  | ok u =>
    simp [Obeys, Permitted, Called, reached, connectExchange, Native.Call.function, Except.isOk,
      Except.toBool]
  | error failure =>
    simp [Obeys, Permitted, Called, reached, connectExchange, Native.Call.function, Except.isOk,
      Except.toBool]

theorem follows_closed (options : Options) (session : Session) (closing : Closing) :
    Obeys Permitted []
      (uses session.library (session.opening options ++ session.teardown closing)) := by
  rw [uses_append, uses_opening, uses_teardown]
  obtain ⟨library, connection⟩ := session
  cases connection with
  | embedded handle => exact follows_of_embedded library handle _ _ _
  | standalone link => exact follows_of_link library link _ _ _
  | managedChild link child => exact follows_of_link library link _ _ _

theorem follows_dropped (options : Options) (session : Session)
    (removed : Except Kernel.Fault Unit) :
    Obeys Permitted []
      (uses session.library (session.opening options ++ session.dropping removed)) := by
  rw [uses_append, uses_opening, uses_dropping]
  obtain ⟨library, connection⟩ := session
  cases connection with
  | embedded handle =>
    simp [Obeys, Permitted, Called, reached, startExchange, Native.Call.function]
  | standalone link =>
    simp [Obeys, Permitted, Called, reached, connectExchange, Native.Call.function]
  | managedChild link child =>
    simp [Obeys, Permitted, Called, reached, connectExchange, Native.Call.function]

/-! ### One library for each life -/

/-- Nothing but this library is used, and none is loaded. -/
def Upon (library : Native.Library) (done : List Exchange) : Prop :=
  ∀ exchange ∈ done, exchange.loaded? = none ∧
    (exchange.used? = none ∨ exchange.used? = some library)

theorem upon_of_joinRequest {library : Native.Library} {done : List Exchange}
    (asked : ∀ exchange ∈ done, JoinRequest library exchange.request) : Upon library done := by
  rintro ⟨request, reply⟩ member
  have join := asked _ member
  refine ⟨join.loaded?, ?_⟩
  cases request with
  | call called call =>
    obtain rfl : called = library := join
    exact .inr rfl
  | find name searchPath => exact .inl rfl
  | reserve directory stem => exact .inl rfl
  | spawn program arguments => exact .inl rfl
  | signal pid sent => exact .inl rfl
  | wait pid => exact .inl rfl
  | remove path => exact .inl rfl
  | _ => cases join

theorem Upon.append {library : Native.Library} {first second : List Exchange}
    (uponFirst : Upon library first) (uponSecond : Upon library second) :
    Upon library (first ++ second) := by
  intro exchange member
  rcases List.mem_append.mp member with member | member
  · exact uponFirst exchange member
  · exact uponSecond exchange member

theorem Upon.ite {library : Native.Library} {done : List Exchange} (taken : Bool)
    (upon : Upon library done) : Upon library (if taken then done else []) := by
  cases taken with
  | true => exact upon
  | false => exact List.forall_mem_nil _

theorem upon_bereaving (library : Native.Library) (session : Session) (closing : Closing) :
    Upon library (session.bereaving closing) := by
  have apart (exchange : Exchange) (notLoaded : exchange.loaded? = none)
      (notUsed : exchange.used? = none) : Upon library [exchange] :=
    List.forall_mem_singleton.mpr ⟨notLoaded, .inl notUsed⟩
  unfold bereaving
  cases session.child? with
  | none => exact List.forall_mem_nil _
  | some child =>
    have ends : Upon library (dismissal child closing) := by
      refine Upon.append (Upon.append (Upon.ite _ ?_) (Upon.ite _ ?_)) (Upon.ite _ ?_)
      · exact apart _ rfl rfl
      · exact apart _ rfl rfl
      · exact apart _ rfl rfl
    exact ends.append (apart _ rfl rfl)

theorem upon_teardown (session : Session) (closing : Closing) :
    Upon session.library (session.teardown closing) := by
  have closes : Upon session.library [session.closeExchange closing.close] := by
    unfold Upon closeExchange
    rw [List.forall_mem_singleton]
    cases session.connection with
    | embedded handle => exact ⟨rfl, .inr rfl⟩
    | standalone link => exact ⟨rfl, .inr rfl⟩
    | managedChild link child => exact ⟨rfl, .inr rfl⟩
  have shuts : Upon session.library [.called session.library .shutdown closing.shutdown] :=
    List.forall_mem_singleton.mpr ⟨rfl, .inr rfl⟩
  have unloads : Upon session.library [⟨.unload session.library, closing.unload⟩] :=
    List.forall_mem_singleton.mpr ⟨rfl, .inr rfl⟩
  exact ((closes.append (shuts.ite closing.close.isOk)).append
    (upon_bereaving session.library session closing)).append unloads

theorem upon_dropping (session : Session) (removed : Except Kernel.Fault Unit) :
    Upon session.library (session.dropping removed) := by
  unfold Upon dropping
  rw [List.forall_mem_cons]
  refine ⟨⟨rfl, .inr rfl⟩, ?_⟩
  cases session.child? with
  | none => exact List.forall_mem_nil _
  | some child => exact List.forall_mem_singleton.mpr ⟨rfl, .inl rfl⟩

theorem Startup.upon {options : Options} {mode : Mode} {args : List String} {done : List Exchange}
    {session : Session} (startup : Startup options mode args done (.ok session)) :
    ∃ rest, done = ⟨.load options.library, .ok session.library⟩ :: rest ∧
      Upon session.library rest ∧
      uses session.library rest = uses session.library (session.opening options) := by
  obtain ⟨opened, -⟩ := startup.eq_opening
  cases startup with
  | started plan library rest connection planned following =>
    refine ⟨rest, rfl, upon_of_joinRequest following.joinRequest, ?_⟩
    rw [← opened]
    rfl

end Session

namespace Fleet

open Session

/-- In a life no library is used, or one is loaded first of all and only this one is used. -/
theorem Life.upon {options : Options} {mode : Mode} {args : List String} {done : List Exchange}
    {ending : Ending} (life : Life options mode args done ending) :
    (∀ exchange ∈ done, exchange.loaded? = none ∧ exchange.used? = none) ∨
    ∃ name library rest, done = ⟨.load name, .ok library⟩ :: rest ∧ Upon library rest ∧
      Obeys Permitted [] (uses library rest) := by
  cases life with
  | failed _ failure startup =>
    cases startup with
    | refused _ unplanned => exact .inl (List.forall_mem_nil _)
    | unloaded plan reason planned => exact .inl (List.forall_mem_singleton.mpr ⟨rfl, rfl⟩)
    | failed plan library rest _ unload planned following =>
      have joins : Upon library rest := upon_of_joinRequest following.joinRequest
      have unloads : Upon library [⟨.unload library, unload⟩] :=
        List.forall_mem_singleton.mpr ⟨rfl, .inr rfl⟩
      refine .inr ⟨options.library, library, rest ++ [⟨.unload library, unload⟩], rfl,
        joins.append unloads, ?_⟩
      have last : uses library [⟨.unload library, unload⟩] = [⟨.unload library, unload⟩] :=
        List.filter_cons_of_pos (decide_eq_true rfl)
      rw [uses_append, last]
      exact following.follows unload
  | started _ session startup =>
    obtain ⟨rest, rfl, upon, same⟩ := startup.upon
    have follows := follows_closed options session .smooth
    rw [uses_append, ← same] at follows
    exact .inr ⟨options.library, session.library, rest, rfl, upon, (obeys_append_iff.mp follows).1⟩
  | closed opening session closing startup =>
    obtain ⟨rest, rfl, upon, same⟩ := startup.upon
    have follows := follows_closed options session closing
    rw [uses_append, ← same, ← uses_append] at follows
    exact .inr ⟨options.library, session.library, rest ++ session.teardown closing, rfl,
      upon.append (upon_teardown session closing), follows⟩
  | dropped opening session removed startup =>
    obtain ⟨rest, rfl, upon, same⟩ := startup.upon
    have follows := follows_dropped options session removed
    rw [uses_append, ← same, ← uses_append] at follows
    exact .inr ⟨options.library, session.library, rest ++ session.dropping removed, rfl,
      upon.append (upon_dropping session removed), follows⟩

/-! ### Many sessions -/

/-- Surroundings that promise only that a loaded library is a new one; the state is all that were
loaded. Calls return what they like. -/
def anyLibraries : Surroundings (List Native.Library) where
  answers _ loaded exchange next :=
    (∀ library, exchange.loaded? = some library → library ∉ loaded) ∧
      next = exchange.loaded?.toList ++ loaded
  drifts _ _ := False

theorem quiet_anyLibraries : anyLibraries.Quiet := by
  rintro caller loaded ⟨request, reply⟩ next silent
  cases request with
  | log event =>
    constructor
    · exact And.right
    · intro same
      refine ⟨?_, same⟩
      rintro library ⟨⟩
  | _ => cases silent

/-- Everything but a load can be answered in any way. -/
theorem along_of_unloaded {caller : Nat} {loaded : List Native.Library} {trace : List Exchange}
    (unloaded : ∀ exchange ∈ trace, exchange.loaded? = none) :
    anyLibraries.Along caller loaded trace loaded := by
  induction trace with
  | nil => exact .refl
  | cons exchange rest ih =>
    rw [List.forall_mem_cons] at unloaded
    obtain ⟨noLoad, unloaded⟩ := unloaded
    refine ⟨loaded, loaded, .refl, ⟨?_, ?_⟩, ih unloaded⟩
    · intro library given
      cases noLoad.symm.trans given
    · rw [noLoad]
      rfl

variable {fleet next : Fleet (List Native.Library)}

/-- No library was loaded by two callers. -/
structure Apart (fleet : Fleet (List Native.Library)) : Prop where
  known : ∀ caller exchange library, (caller, exchange) ∈ fleet.journal →
    exchange.loaded? = some library → library ∈ fleet.world
  single : ∀ caller exchange other exchange' library, (caller, exchange) ∈ fleet.journal →
    (other, exchange') ∈ fleet.journal → exchange.loaded? = some library →
    exchange'.loaded? = some library → caller = other

theorem Step.apart (step : Step anyLibraries fleet next) (apart : fleet.Apart) : next.Apart := by
  cases step with
  | drift world drifts => exact drifts.elim
  | start options mode args => exact ⟨apart.known, apart.single⟩
  | shutdown caller session running => exact ⟨apart.known, apart.single⟩
  | drop caller session running => exact ⟨apart.known, apart.single⟩
  | exchange actor r onReply reply world asks answer =>
    obtain ⟨fresh, rfl⟩ := answer
    have split (caller : Nat) (exchange : Exchange)
        (member : (caller, exchange) ∈ fleet.journal ++ [(actor, ⟨r, reply⟩)]) :
        (caller, exchange) ∈ fleet.journal ∨ caller = actor ∧ exchange = ⟨r, reply⟩ := by
      rcases List.mem_append.mp member with old | new
      · exact .inl old
      · cases List.mem_singleton.mp new
        exact .inr ⟨rfl, rfl⟩
    constructor
    · intro caller exchange library member loaded
      rcases split caller exchange member with old | ⟨rfl, rfl⟩
      · exact List.mem_append_right _ (apart.known caller exchange library old loaded)
      · rw [loaded]
        exact List.mem_append_left _ List.mem_cons_self
    · intro caller exchange other exchange' library member member' loaded loaded'
      -- A library that was loaded before is not loaded again.
      rcases split caller exchange member with old | ⟨rfl, rfl⟩
      · rcases split other exchange' member' with old' | ⟨rfl, rfl⟩
        · exact apart.single caller exchange other exchange' library old old' loaded loaded'
        · exact absurd (apart.known caller exchange library old loaded) (fresh library loaded')
      · rcases split other exchange' member' with old' | ⟨rfl, rfl⟩
        · exact absurd (apart.known other exchange' library old' loaded') (fresh library loaded)
        · rfl

theorem Reachable.apart (reachable : Reachable anyLibraries [] fleet) : fleet.Apart := by
  induction reachable with
  | refl =>
    constructor
    · rintro caller exchange library ⟨⟩
    · rintro caller exchange other exchange' library ⟨⟩
  | tail _ step ih => exact step.apart ih

/-- At any point of a life, what was done to a library is permitted, and the library was loaded
before if anything was done to it. -/
theorem Life.follows {options : Options} {mode : Mode} {args : List String}
    {done rest : List Exchange} {ending : Ending}
    (life : Life options mode args (done ++ rest) ending) (library : Native.Library) :
    Obeys Permitted [] (uses library done) ∧
      (uses library done ≠ [] → ∃ exchange ∈ done, exchange.loaded? = some library) := by
  have unused (none : uses library done = []) : Obeys Permitted [] (uses library done) ∧
      (uses library done ≠ [] → ∃ exchange ∈ done, exchange.loaded? = some library) := by
    rw [none]
    exact ⟨trivial, fun used => absurd rfl used⟩
  rcases life.upon with idle | ⟨name, own, tail, whole, upon, follows⟩
  · apply unused
    apply uses_eq_nil
    intro exchange member used
    cases (idle exchange (List.mem_append_left _ member)).2.symm.trans used
  · cases done with
    | nil => exact unused rfl
    | cons first done =>
      rw [List.cons_append] at whole
      obtain ⟨rfl, rfl⟩ := List.cons.inj whole
      have onlyLoads : uses library (⟨.load name, .ok own⟩ :: done) = uses library done := rfl
      by_cases same : own = library
      · subst same
        rw [onlyLoads]
        rw [uses_append] at follows
        exact ⟨(obeys_append_iff.mp follows).1, fun _ => ⟨_, List.mem_cons_self, rfl⟩⟩
      · apply unused
        rw [onlyLoads]
        apply uses_eq_nil
        intro exchange member used
        rcases (upon exchange (List.mem_append_left _ member)).2 with none | some
        · cases none.symm.trans used
        · exact same (Option.some.inj (some.symm.trans used))

/-- What one caller did to a library is permitted, and the caller loaded the library before if it
did anything to it. -/
theorem Sound.follows {σ : Type} {fleet : Fleet σ} (sound : fleet.Sound) (caller : Nat)
    (library : Native.Library) :
    Obeys Permitted [] (uses library (fleet.past caller)) ∧
      (uses library (fleet.past caller) ≠ [] →
        ∃ exchange ∈ fleet.past caller, exchange.loaded? = some library) := by
  rcases Nat.lt_or_ge caller fleet.lives.length with inside | beyond
  · have lived := sound.lived caller _ (List.getElem?_eq_getElem inside)
    obtain ⟨options, mode, args, rest, ending, life⟩ := lived.exists_life
    obtain ⟨follows, loads⟩ := life.follows library
    rw [deeds, uses_effects] at follows loads
    refine ⟨follows, fun used => ?_⟩
    obtain ⟨exchange, member, loaded⟩ := loads used
    exact ⟨exchange, (List.mem_filter.mp member).1, loaded⟩
  · rw [sound.unborn caller beyond]
    exact ⟨trivial, fun used => absurd rfl used⟩

theorem mem_past_iff {σ : Type} {fleet : Fleet σ} {caller : Nat} {exchange : Exchange} :
    exchange ∈ fleet.past caller ↔ (caller, exchange) ∈ fleet.journal := by
  unfold past
  rw [List.mem_map]
  constructor
  · rintro ⟨⟨actor, exchange⟩, member, rfl⟩
    obtain ⟨among, isCaller⟩ := List.mem_filter.mp member
    obtain rfl : actor = caller := of_decide_eq_true isCaller
    exact among
  · intro among
    exact ⟨(caller, exchange), List.mem_filter.mpr ⟨among, decide_eq_true rfl⟩, rfl⟩

theorem uses_journal_of_single {σ : Type} {fleet : Fleet σ} {library : Native.Library} {caller : Nat}
    (single : ∀ other exchange, (other, exchange) ∈ fleet.journal →
      exchange.used? = some library → other = caller) :
    uses library (fleet.journal.map Prod.snd) = uses library (fleet.past caller) := by
  unfold uses past
  rw [List.filter_map, List.filter_map, List.filter_filter]
  congr 1
  apply List.filter_congr
  rintro ⟨other, exchange⟩ member
  by_cases used : exchange.used? = some library
  · have isCaller := single other exchange member used
    simp [used, isCaller]
  · simp [used]

/-- For any number of sessions that are started, shut down and dropped with their exchanges in any
order, and whatever calls return, all that is done to a library is permitted. -/
theorem uses_follow_protocol (reachable : Reachable anyLibraries [] fleet)
    (library : Native.Library) : Obeys Permitted [] (uses library (fleet.journal.map Prod.snd)) := by
  have sound := reachable.sound
  have apart := reachable.apart
  have loads (caller : Nat) (exchange : Exchange) (member : (caller, exchange) ∈ fleet.journal)
      (used : exchange.used? = some library) :
      ∃ load ∈ fleet.past caller, load.loaded? = some library := by
    apply (sound.follows caller library).2
    apply List.ne_nil_of_mem (a := exchange)
    exact List.mem_filter.mpr ⟨mem_past_iff.mpr member, decide_eq_true used⟩
  -- Whoever uses the library loaded it, and no two callers did, so one life has all of its uses.
  by_cases used : ∃ caller exchange, (caller, exchange) ∈ fleet.journal ∧
      exchange.used? = some library
  · obtain ⟨caller, exchange, member, used⟩ := used
    obtain ⟨load, loadMember, loaded⟩ := loads caller exchange member used
    have single (other : Nat) (exchange' : Exchange)
        (member' : (other, exchange') ∈ fleet.journal)
        (used' : exchange'.used? = some library) : other = caller := by
      obtain ⟨load', loadMember', loaded'⟩ := loads other exchange' member' used'
      exact apart.single other load' caller load library (mem_past_iff.mp loadMember')
        (mem_past_iff.mp loadMember) loaded' loaded
    rw [uses_journal_of_single single]
    exact (sound.follows caller library).1
  · have nothing : uses library (fleet.journal.map Prod.snd) = [] := by
      apply uses_eq_nil
      intro exchange member isUsed
      obtain ⟨⟨caller, exchange⟩, among, rfl⟩ := List.mem_map.mp member
      exact used ⟨caller, exchange, among, isUsed⟩
    rw [nothing]
    trivial

/-- A session with an embedded engine is started and shut down. -/
theorem uses_follow_protocol_of_embedded :
    let library : Native.Library := ⟨0, Native.defaultLibrary⟩
    ∃ fleet, Reachable anyLibraries [] fleet ∧
      uses library (fleet.journal.map Prod.snd) =
        [.called library .init (.ok ()), startExchange library (.ok ⟨7⟩),
          .called library (.stopEmbedded ⟨7⟩) (.ok ()), .called library .shutdown (.ok ()),
          ⟨.unload library, .ok ()⟩] ∧
      Obeys Permitted [] (uses library (fleet.journal.map Prod.snd)) := by
  intro library
  let session : Session := ⟨library, .embedded ⟨7⟩⟩
  have startup : Startup .default .embedded [] _ (.ok session) :=
    .started .embedded library _ (.embedded ⟨7⟩) rfl (.embedded _ (.ok ⟨7⟩) (.opened ⟨7⟩))
  have starts : (Ending.ofStart <$> Session.start .default .embedded []).Performs _ _ :=
    Procedure.performs_map_iff.mpr ⟨.ok session, performs_start_iff.mpr startup, rfl⟩
  have shuts : (Ending.closed <$> session.shutdown).Performs _ _ :=
    Procedure.performs_map_iff.mpr
      ⟨_, performs_shutdown_iff.mpr ⟨.smooth, rfl, rfl⟩, rfl⟩
  let todo : Procedure Ending := Ending.ofStart <$> Session.start .default .embedded []
  let born : Fleet (List Native.Library) := ⟨[], [todo], []⟩
  have begins : Reachable anyLibraries [] born := .single (.start ⟨[], [], []⟩ _ _ _)
  have bornTodo : born.lives[0]? = some todo := rfl
  have opens : anyLibraries.Along 0 born.world (session.opening .default) [library] := by
    refine ⟨[], [library], .refl, ⟨fun _ _ => List.not_mem_nil, rfl⟩, along_of_unloaded ?_⟩
    simp [joining, reached, startExchange, Exchange.loaded?, session]
  obtain ⟨opening, opened, toRunning⟩ := exists_run quiet_anyLibraries bornTodo starts opens
  let running : Fleet (List Native.Library) :=
    ⟨[library], [.done (.started session)], opening.map (0, ·)⟩
  let leaving : Fleet (List Native.Library) :=
    { running with lives := [Ending.closed <$> session.shutdown] }
  have leaves : Step anyLibraries running leaving := .shutdown running 0 session rfl
  have leavingTodo : leaving.lives[0]? = some (Ending.closed <$> session.shutdown) := rfl
  have closes : anyLibraries.Along 0 leaving.world (session.teardown .smooth) [library] := by
    apply along_of_unloaded
    intro exchange member
    exact (upon_teardown session .smooth exchange member).1
  obtain ⟨closing, closed, toClosed⟩ := exists_run quiet_anyLibraries leavingTodo shuts closes
  have reachable := ((begins.trans toRunning).tail leaves).trans toClosed
  refine ⟨_, reachable, ?_, uses_follow_protocol reachable library⟩
  have unmapped (trace : List Exchange) :
      (trace.map (fun exchange => ((0 : Nat), exchange))).map Prod.snd = trace := by
    rw [List.map_map]
    exact List.map_id trace
  rw [List.map_append, unmapped, unmapped, uses_append, ← uses_effects library opening, opened,
    ← uses_effects library closing, closed]
  rfl

end Fleet

end HostEngine
