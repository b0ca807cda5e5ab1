import HostEngine.Proofs.Session.Steps
import HostEngine.Session.Start
/-!
# What a start does

The exchanges that a start can make, with the result that goes with them, as relations that follow
its phases: opening the library, linking to a child, making the connection of a plan, and the whole.
A start makes exactly these exchanges (`performs_start_iff`).
-/
set_option autoImplicit false

namespace HostEngine.Session

open Procedure

/-- What initializing a library and opening a connection comes to; `ask` is the exchange of the call
that opens, by its reply. -/
inductive Opening (library : Native.Library) (ask : Except Native.Failure Native.Handle → Exchange)
    (step : NativeStep) : List Exchange → Except Failure Native.Handle → Prop
  | uninitialized (failure : Native.Failure) :
    Opening library ask step [.called library .init (.error failure)]
      (.error (.native .init failure))
  /-- The library was initialized but the call failed, so the library is shut down again. -/
  | unopened (failure : Native.Failure) (shutdown : Except Native.Failure Unit) :
    Opening library ask step
      [.called library .init (.ok ()), ask (.error failure), .called library .shutdown shutdown]
      (.error (.native step failure))
  | opened (handle : Native.Handle) :
    Opening library ask step [.called library .init (.ok ()), ask (.ok handle)] (.ok handle)

def startExchange (library : Native.Library) (reply : Except Native.Failure Native.Handle) :
    Exchange :=
  .called library (.startEmbedded .automatic) reply

def connectExchange (library : Native.Library) (target : Target)
    (reply : Except Native.Failure Native.Handle) : Exchange :=
  .called library (.connect target.octets (.ofFlag target.flag)) reply

inductive Linking (library : Native.Library) (child : Child) :
    List Exchange → Except Failure Link → Prop
  | unaddressed (failure : Failure)
      (refused : Target.ofSocketPath child.socketPath = .error failure) :
    Linking library child [] (.error failure)
  | tried (target : Target) (done : List Exchange) (opened : Except Failure Native.Handle)
      (addressed : Target.ofSocketPath child.socketPath = .ok target)
      (opening : Opening library (connectExchange library target) .connect done opened) :
    Linking library child done (opened.map (⟨·, target⟩))

inductive Launching (library : Native.Library) (executable path : Octets) :
    List Exchange → Except Failure Connection → Prop
  | unspawned (fault : Kernel.Fault) (remove : Except Kernel.Fault Unit) :
    Launching library executable path
      [⟨.spawn executable [.ofString socketArgument, path], .error fault⟩, ⟨.remove path, remove⟩]
      (.error (.spawn executable.shown fault.text))
  /-- The child runs but cannot be connected to, so it is killed and its path removed. -/
  | aborted (pid : UInt32) (done : List Exchange) (failure : Failure)
      (kill : Except Kernel.Errno Unit) (reap : Except Kernel.Fault Kernel.Exit)
      (remove : Except Kernel.Fault Unit)
      (linking : Linking library ⟨pid, executable, path⟩ done (.error failure)) :
    Launching library executable path
      (⟨.spawn executable [.ofString socketArgument, path], .ok pid⟩ ::
        (done ++ (killing pid kill reap ++ [⟨.remove path, remove⟩])))
      (.error failure)
  | linked (pid : UInt32) (done : List Exchange) (link : Link)
      (linking : Linking library ⟨pid, executable, path⟩ done (.ok link)) :
    Launching library executable path
      (⟨.spawn executable [.ofString socketArgument, path], .ok pid⟩ :: done)
      (.ok (.managedChild link ⟨pid, executable, path⟩))

inductive ChildStart (library : Native.Library) (options : ChildOptions) :
    List Exchange → Except Failure Connection → Prop
  | unnamed (empty : options.executable.isEmpty = true) :
    ChildStart library options []
      (.error (.executableNotFound options.executable Program.emptyName.reason))
  | unfound (reason : String) (named : options.executable.isEmpty = false) :
    ChildStart library options [⟨.find options.executable options.searchPath, .error reason⟩]
      (.error (.executableNotFound options.executable reason))
  | unreserved (executable : Octets) (fault : Kernel.Fault)
      (named : options.executable.isEmpty = false) :
    ChildStart library options
      [⟨.find options.executable options.searchPath, .ok executable⟩,
        ⟨.reserve options.scratchDirectory options.socketStem, .error fault⟩]
      (.error (.scratchFile options.scratchDirectory fault))
  | launched (executable path : Octets) (done : List Exchange)
      (connected : Except Failure Connection) (named : options.executable.isEmpty = false)
      (launching : Launching library executable path done connected) :
    ChildStart library options
      (⟨.find options.executable options.searchPath, .ok executable⟩ ::
        ⟨.reserve options.scratchDirectory options.socketStem, .ok path⟩ :: done)
      connected

inductive Following (library : Native.Library) (options : ChildOptions) :
    Plan → List Exchange → Except Failure Connection → Prop
  | embedded (done : List Exchange) (opened : Except Failure Native.Handle)
      (opening : Opening library (startExchange library) .start done opened) :
    Following library options .embedded done (opened.map .embedded)
  | standalone (target : Target) (done : List Exchange) (opened : Except Failure Native.Handle)
      (opening : Opening library (connectExchange library target) .connect done opened) :
    Following library options (.standalone target) done
      (opened.map fun handle => .standalone ⟨handle, target⟩)
  | managedChild (done : List Exchange) (connected : Except Failure Connection)
      (childStart : ChildStart library options done connected) :
    Following library options .managedChild done connected

inductive Startup (options : Options) (mode : Mode) (args : List String) :
    List Exchange → Except Failure Session → Prop
  | refused (failure : Failure) (unplanned : Plan.make mode args = .error failure) :
    Startup options mode args [] (.error failure)
  | unloaded (plan : Plan) (reason : String) (planned : Plan.make mode args = .ok plan) :
    Startup options mode args [⟨.load options.library, .error reason⟩]
      (.error (.libraryNotFound options.library reason))
  /-- The connection was not made, so the library is closed again. -/
  | failed (plan : Plan) (library : Native.Library) (done : List Exchange) (failure : Failure)
      (unload : Except String Unit) (planned : Plan.make mode args = .ok plan)
      (following : Following library options.child plan done (.error failure)) :
    Startup options mode args
      (⟨.load options.library, .ok library⟩ :: done ++ [⟨.unload library, unload⟩])
      (.error failure)
  | started (plan : Plan) (library : Native.Library) (done : List Exchange)
      (connection : Connection) (planned : Plan.make mode args = .ok plan)
      (following : Following library options.child plan done (.ok connection)) :
    Startup options mode args (⟨.load options.library, .ok library⟩ :: done)
      (.ok ⟨library, connection⟩)

variable {done : List Exchange}

/-! ### Opening the library -/

theorem silent_warnOfSecond (reply : Except Native.Failure Unit) :
    Silent (warnOfSecond reply) () := by
  cases reply with
  | ok u => exact silent_pure _
  | error second => exact silent_log _ _ _

theorem performs_withInit_iff {library : Native.Library}
    {ask : Except Native.Failure Native.Handle → Exchange} {step : NativeStep}
    {start : Procedure (Except Failure Native.Handle)} {result : Except Failure Native.Handle}
    (asks : ∀ done result, start.Performs done result ↔
      ∃ reply, done = [ask reply] ∧ result = reply.mapError (.native step)) :
    (withInit library start).Performs done result ↔ Opening library ask step done result := by
  -- The failure that is returned is the first one, however the shutdown after it goes.
  have undoing : ∀ (failure : Failure) (rest : List Exchange) (b : Except Failure Native.Handle),
      (perform (.call library .shutdown) >>= fun reply =>
        warnOfSecond reply >>= fun _ => pure (.error failure)).Performs rest b ↔
      ∃ reply, rest = [.called library .shutdown reply] ∧ b = .error failure := by
    intro failure rest b
    apply performs_step_iff
    intro reply
    exact (silent_warnOfSecond reply).bind (silent_pure _)
  unfold withInit
  rw [performs_ask_iff]
  constructor
  · rintro ⟨init, rest, rfl, h⟩
    cases init with
    | error failure =>
      obtain ⟨rfl, rfl⟩ := performs_pure_iff.mp h
      exact .uninitialized failure
    | ok u =>
      obtain ⟨first, second, started, rfl, hstart, hend⟩ := performs_bind_iff.mp h
      obtain ⟨reply, rfl, rfl⟩ := (asks first started).mp hstart
      cases reply with
      | ok handle =>
        obtain ⟨rfl, rfl⟩ := performs_pure_iff.mp hend
        exact .opened handle
      | error failure =>
        obtain ⟨shutdown, rfl, rfl⟩ := (undoing _ second result).mp hend
        exact .unopened failure shutdown
  · intro opening
    cases opening with
    | uninitialized failure =>
      exact ⟨.error failure, [], rfl, performs_pure_iff.mpr ⟨rfl, rfl⟩⟩
    | unopened failure shutdown =>
      have starts := (asks [ask (.error failure)] _).mpr ⟨.error failure, rfl, rfl⟩
      refine ⟨.ok (), _, rfl, performs_bind_iff.mpr ⟨_, _, _, rfl, starts, ?_⟩⟩
      exact (undoing _ _ _).mpr ⟨shutdown, rfl, rfl⟩
    | opened handle =>
      have starts := (asks [ask (.ok handle)] _).mpr ⟨.ok handle, rfl, rfl⟩
      refine ⟨.ok (), _, rfl, performs_bind_iff.mpr ⟨_, [], _, rfl, starts, ?_⟩⟩
      exact performs_pure_iff.mpr ⟨rfl, rfl⟩

theorem performs_startEmbedded_iff {library : Native.Library}
    {result : Except Failure Native.Handle} :
    (startEmbedded library).Performs done result ↔
      Opening library (startExchange library) .start done result := by
  unfold startEmbedded
  rw [performs_bind_silent_iff (f := id)]
  · simp only [id, exists_eq_right']
    apply performs_withInit_iff
    intro done result
    apply performs_step_iff
    intro reply
    cases reply with
    | ok handle => exact silent_pure _
    | error failure => exact silent_pure _
  · intro started
    cases started with
    | ok handle => exact (silent_log _ _ _).bind (silent_pure _)
    | error failure => exact silent_pure _

theorem performs_connect_iff {library : Native.Library} {target : Target}
    {result : Except Failure Link} :
    (connect library target).Performs done result ↔
      ∃ opened, Opening library (connectExchange library target) .connect done opened ∧
        result = opened.map (⟨·, target⟩) := by
  unfold connect
  rw [performs_bind_silent_iff (f := Except.map (⟨·, target⟩))]
  · apply exists_congr
    intro opened
    apply and_congr_left'
    apply performs_withInit_iff
    intro done result
    rw [(silent_log _ _ _).performs_bind_iff]
    apply performs_step_iff
    intro reply
    cases reply with
    | ok handle => exact silent_pure _
    | error failure => exact silent_pure _
  · intro connected
    cases connected with
    | ok handle => exact (silent_log _ _ _).bind (silent_pure _)
    | error failure => exact silent_pure _

/-! ### The child -/

theorem performs_connectChild_iff {library : Native.Library} {child : Child}
    {result : Except Failure Link} :
    (connectChild library child).Performs done result ↔ Linking library child done result := by
  unfold connectChild
  cases addressed : Target.ofSocketPath child.socketPath with
  | error failure =>
    constructor
    · intro h
      obtain ⟨rfl, rfl⟩ := performs_pure_iff.mp h
      exact .unaddressed failure addressed
    · intro linking
      cases linking with
      | unaddressed failure' refused =>
        cases addressed.symm.trans refused
        exact performs_pure_iff.mpr ⟨rfl, rfl⟩
      | tried target _ opened accepted => cases addressed.symm.trans accepted
  | ok target =>
    constructor
    · intro h
      obtain ⟨opened, opening, rfl⟩ := performs_connect_iff.mp h
      exact .tried target done opened addressed opening
    · intro linking
      cases linking with
      | unaddressed failure refused => cases addressed.symm.trans refused
      | tried target' _ opened accepted opening =>
        cases addressed.symm.trans accepted
        exact performs_connect_iff.mpr ⟨opened, opening, rfl⟩

theorem performs_killChild_iff {child : Child} {u : Unit} :
    (killChild child).Performs done u ↔
      ∃ kill reap, done = killing child.pid kill reap ∧ u = () :=
  performs_killing_iff (f := fun _ => ()) (fun _ => silent_log _ _ _) fun _ => performs_reap_iff

theorem performs_abort_iff {child : Child} {u : Unit} :
    (abort child).Performs done u ↔
      ∃ kill reap remove,
        done = killing child.pid kill reap ++ [⟨.remove child.socketPath, remove⟩] := by
  unfold abort
  rw [(silent_log _ _ _).performs_bind_iff, performs_bind_iff]
  constructor
  · rintro ⟨first, second, v, rfl, hkill, hremove⟩
    obtain ⟨kill, reap, rfl, -⟩ := performs_killChild_iff.mp hkill
    obtain ⟨remove, rfl, -⟩ := performs_removeSocket_iff.mp hremove
    exact ⟨kill, reap, remove, rfl⟩
  · rintro ⟨kill, reap, remove, rfl⟩
    exact ⟨_, _, (), rfl, performs_killChild_iff.mpr ⟨kill, reap, rfl, rfl⟩,
      performs_removeSocket_iff.mpr ⟨remove, rfl, rfl⟩⟩

theorem performs_abort_bind_iff {β : Type} {child : Child} {a b : β} :
    (abort child >>= fun _ => pure a).Performs done b ↔ (abort child).Performs done () ∧ b = a := by
  rw [performs_bind_silent_iff fun _ => silent_pure a]
  constructor
  · rintro ⟨u, haborts, rfl⟩
    exact ⟨haborts, rfl⟩
  · rintro ⟨haborts, rfl⟩
    exact ⟨(), haborts, rfl⟩

theorem performs_adopt_iff {library : Native.Library} {child : Child}
    {result : Except Failure Connection} :
    (adopt library child).Performs done result ↔
      (∃ link, Linking library child done (.ok link) ∧ result = .ok (.managedChild link child)) ∨
      ∃ first failure kill reap remove,
        Linking library child first (.error failure) ∧ result = .error failure ∧
        done = first ++ (killing child.pid kill reap ++ [⟨.remove child.socketPath, remove⟩]) := by
  unfold adopt
  rw [performs_bind_iff]
  constructor
  · rintro ⟨first, second, linked, rfl, hlink, h⟩
    have linking := performs_connectChild_iff.mp hlink
    cases linked with
    | ok link =>
      obtain ⟨rfl, rfl⟩ := performs_pure_iff.mp h
      exact .inl ⟨link, by rwa [List.append_nil], rfl⟩
    | error failure =>
      obtain ⟨haborts, rfl⟩ := performs_abort_bind_iff.mp h
      obtain ⟨kill, reap, remove, rfl⟩ := performs_abort_iff.mp haborts
      exact .inr ⟨first, failure, kill, reap, remove, linking, rfl, rfl⟩
  · rintro (⟨link, linking, rfl⟩ | ⟨first, failure, kill, reap, remove, linking, rfl, rfl⟩)
    · exact ⟨done, [], _, (List.append_nil done).symm, performs_connectChild_iff.mpr linking,
        performs_pure_iff.mpr ⟨rfl, rfl⟩⟩
    · have aborts : (abort child).Performs _ () :=
        performs_abort_iff.mpr ⟨kill, reap, remove, rfl⟩
      exact ⟨first, _, _, rfl, performs_connectChild_iff.mpr linking,
        performs_abort_bind_iff.mpr ⟨aborts, rfl⟩⟩

theorem performs_launch_iff {library : Native.Library} {executable path : Octets}
    {result : Except Failure Connection} :
    (launch library executable path).Performs done result ↔
      Launching library executable path done result := by
  unfold launch
  rw [performs_bind_iff]
  constructor
  · rintro ⟨_, rest, _, rfl, hspawn, spawnedNext⟩
    obtain ⟨spawned, rfl, rfl⟩ := Program.performs_spawn_iff.mp hspawn
    cases spawned with
    | error fault =>
      obtain ⟨remove, last, rfl, hend⟩ := performs_ask_iff.mp spawnedNext
      obtain ⟨rfl, rfl⟩ := performs_pure_iff.mp hend
      exact .unspawned fault remove
    | ok pid =>
      have adopts := (silent_log _ _ _).performs_bind_iff.mp spawnedNext
      rcases performs_adopt_iff.mp adopts
        with ⟨link, linking, rfl⟩ | ⟨first, failure, kill, reap, remove, linking, rfl, rfl⟩
      · exact .linked pid rest link linking
      · exact .aborted pid first failure kill reap remove linking
  · intro launching
    cases launching with
    | unspawned fault remove =>
      have spawns : (Program.spawn executable [.ofString socketArgument, path]).Performs _ _ :=
        Program.performs_spawn_iff.mpr ⟨.error fault, rfl, rfl⟩
      refine ⟨_, _, _, rfl, spawns, ?_⟩
      exact performs_ask_iff.mpr ⟨remove, [], rfl, performs_pure_iff.mpr ⟨rfl, rfl⟩⟩
    | aborted pid first failure kill reap remove linking =>
      have spawns : (Program.spawn executable [.ofString socketArgument, path]).Performs _ _ :=
        Program.performs_spawn_iff.mpr ⟨.ok pid, rfl, rfl⟩
      refine ⟨_, _, _, rfl, spawns, (silent_log _ _ _).performs_bind_iff.mpr ?_⟩
      exact performs_adopt_iff.mpr
        (.inr ⟨first, failure, kill, reap, remove, linking, rfl, rfl⟩)
    | linked pid first link linking =>
      have spawns : (Program.spawn executable [.ofString socketArgument, path]).Performs _ _ :=
        Program.performs_spawn_iff.mpr ⟨.ok pid, rfl, rfl⟩
      refine ⟨_, _, _, rfl, spawns, (silent_log _ _ _).performs_bind_iff.mpr ?_⟩
      exact performs_adopt_iff.mpr (.inl ⟨link, linking, rfl⟩)

theorem performs_startChild_iff {library : Native.Library} {options : ChildOptions}
    {result : Except Failure Connection} :
    (startChild library options).Performs done result ↔ ChildStart library options done result := by
  unfold startChild
  cases named : options.executable.isEmpty with
  | true =>
    rw [(Program.silent_find named).performs_bind_iff]
    constructor
    · intro h
      obtain ⟨rfl, rfl⟩ := performs_pure_iff.mp h
      exact .unnamed named
    · intro start
      cases start with
      | unnamed => exact performs_pure_iff.mpr ⟨rfl, rfl⟩
      | unfound _ named' => cases named.symm.trans named'
      | unreserved _ _ named' => cases named.symm.trans named'
      | launched _ _ _ _ named' => cases named.symm.trans named'
  | false =>
    rw [performs_bind_iff]
    constructor
    · rintro ⟨_, rest, _, rfl, hfind, foundNext⟩
      obtain ⟨found, rfl, rfl⟩ := (Program.performs_find_iff named).mp hfind
      cases found with
      | error reason =>
        obtain ⟨rfl, rfl⟩ := performs_pure_iff.mp foundNext
        exact .unfound reason named
      | ok executable =>
        have asks := (silent_log _ _ _).performs_bind_iff.mp foundNext
        obtain ⟨reserved, last, rfl, reservedNext⟩ := performs_ask_iff.mp asks
        cases reserved with
        | error fault =>
          obtain ⟨rfl, rfl⟩ := performs_pure_iff.mp reservedNext
          exact .unreserved executable fault named
        | ok path =>
          exact .launched executable path last result named (performs_launch_iff.mp reservedNext)
    · intro start
      have finds (found : Except String Octets) :
          (Program.find options.executable options.searchPath).Performs _ _ :=
        (Program.performs_find_iff named).mpr ⟨found, rfl, rfl⟩
      cases start with
      | unnamed named' => cases named.symm.trans named'
      | unfound reason =>
        exact ⟨_, [], _, rfl, finds (.error reason), performs_pure_iff.mpr ⟨rfl, rfl⟩⟩
      | unreserved executable fault =>
        refine ⟨_, _, _, rfl, finds (.ok executable), (silent_log _ _ _).performs_bind_iff.mpr ?_⟩
        exact performs_ask_iff.mpr ⟨.error fault, [], rfl, performs_pure_iff.mpr ⟨rfl, rfl⟩⟩
      | launched executable path last _ _ launching =>
        refine ⟨_, _, _, rfl, finds (.ok executable), (silent_log _ _ _).performs_bind_iff.mpr ?_⟩
        exact performs_ask_iff.mpr ⟨.ok path, last, rfl, performs_launch_iff.mpr launching⟩

/-! ### A whole start -/

theorem performs_follow_iff {library : Native.Library} {options : ChildOptions} {plan : Plan}
    {result : Except Failure Connection} :
    (follow library options plan).Performs done result ↔
      Following library options plan done result := by
  cases plan with
  | embedded =>
    have follows : (follow library options .embedded).Performs done result ↔ _ :=
      performs_bind_silent_iff (f := Except.map Connection.embedded) fun _ => silent_pure _
    rw [follows]
    constructor
    · rintro ⟨opened, hopen, rfl⟩
      exact .embedded done opened (performs_startEmbedded_iff.mp hopen)
    · intro following
      cases following with
      | embedded _ opened opening => exact ⟨opened, performs_startEmbedded_iff.mpr opening, rfl⟩
  | standalone target =>
    have follows : (follow library options (.standalone target)).Performs done result ↔ _ :=
      performs_bind_silent_iff (f := Except.map Connection.standalone) fun _ => silent_pure _
    rw [follows]
    constructor
    · rintro ⟨connected, hconnect, rfl⟩
      obtain ⟨opened, opening, rfl⟩ := performs_connect_iff.mp hconnect
      cases opened with
      | error failure => exact .standalone target done (.error failure) opening
      | ok handle => exact .standalone target done (.ok handle) opening
    · intro following
      cases following with
      | standalone _ _ opened opening =>
        refine ⟨_, performs_connect_iff.mpr ⟨opened, opening, rfl⟩, ?_⟩
        cases opened <;> rfl
  | managedChild =>
    have follows : (follow library options .managedChild).Performs done result ↔ _ :=
      performs_startChild_iff
    rw [follows]
    constructor
    · intro childStart
      exact .managedChild done result childStart
    · intro following
      cases following with
      | managedChild _ _ childStart => exact childStart

theorem performs_release_bind_iff {β : Type} {library : Native.Library} {a b : β} :
    (release library >>= fun _ => pure a).Performs done b ↔
      ∃ unload, done = [⟨.unload library, unload⟩] ∧ b = a := by
  rw [performs_bind_silent_iff fun _ => silent_pure a]
  constructor
  · rintro ⟨u, hrelease, rfl⟩
    obtain ⟨unload, rfl, -⟩ := performs_release_iff.mp hrelease
    exact ⟨unload, rfl, rfl⟩
  · rintro ⟨unload, rfl, rfl⟩
    exact ⟨(), performs_release_iff.mpr ⟨unload, rfl, rfl⟩, rfl⟩

theorem performs_startPlanned_iff {options : Options} {mode : Mode} {plan : Plan}
    {result : Except Failure Session} {args : List String}
    (planned : Plan.make mode args = .ok plan) :
    (startPlanned options mode plan).Performs done result ↔
      Startup options mode args done result := by
  unfold startPlanned
  rw [(silent_log _ _ _).performs_bind_iff, performs_ask_iff]
  constructor
  · rintro ⟨loaded, rest, rfl, loadedNext⟩
    cases loaded with
    | error reason =>
      obtain ⟨rfl, rfl⟩ := performs_pure_iff.mp loadedNext
      exact .unloaded plan reason planned
    | ok library =>
      have follows := (silent_log _ _ _).performs_bind_iff.mp loadedNext
      obtain ⟨first, second, connected, rfl, hfollow, followedNext⟩ := performs_bind_iff.mp follows
      have following := performs_follow_iff.mp hfollow
      cases connected with
      | ok connection =>
        have ends := (silent_log _ _ _).performs_bind_iff.mp followedNext
        obtain ⟨rfl, rfl⟩ := performs_pure_iff.mp ends
        rw [List.append_nil]
        exact .started plan library first connection planned following
      | error failure =>
        have ends := (silent_log _ _ _).performs_bind_iff.mp followedNext
        obtain ⟨unload, rfl, rfl⟩ := performs_release_bind_iff.mp ends
        exact .failed plan library first failure unload planned following
  · intro startup
    cases startup with
    | refused failure unplanned => cases planned.symm.trans unplanned
    | unloaded plan' reason planned' =>
      exact ⟨.error reason, [], rfl, performs_pure_iff.mpr ⟨rfl, rfl⟩⟩
    | failed plan' library first failure unload planned' following =>
      cases planned.symm.trans planned'
      refine ⟨.ok library, _, rfl, (silent_log _ _ _).performs_bind_iff.mpr ?_⟩
      refine performs_bind_iff.mpr ⟨_, _, _, rfl, performs_follow_iff.mpr following, ?_⟩
      refine (silent_log _ _ _).performs_bind_iff.mpr ?_
      exact performs_release_bind_iff.mpr ⟨unload, rfl, rfl⟩
    | started plan' library first connection planned' following =>
      cases planned.symm.trans planned'
      refine ⟨.ok library, _, rfl, (silent_log _ _ _).performs_bind_iff.mpr ?_⟩
      refine performs_bind_iff.mpr
        ⟨first, [], _, (List.append_nil _).symm, performs_follow_iff.mpr following, ?_⟩
      exact (silent_log _ _ _).performs_bind_iff.mpr (performs_pure_iff.mpr ⟨rfl, rfl⟩)

theorem performs_start_iff {options : Options} {mode : Mode} {args : List String}
    {result : Except Failure Session} :
    (start options mode args).Performs done result ↔ Startup options mode args done result := by
  unfold start
  cases planned : Plan.make mode args with
  | error failure =>
    constructor
    · intro h
      obtain ⟨rfl, rfl⟩ := performs_pure_iff.mp h
      exact .refused failure planned
    · intro startup
      cases startup with
      | refused _ unplanned =>
        cases planned.symm.trans unplanned
        exact performs_pure_iff.mpr ⟨rfl, rfl⟩
      | unloaded _ _ planned' => cases planned.symm.trans planned'
      | failed _ _ _ _ _ planned' => cases planned.symm.trans planned'
      | started _ _ _ _ planned' => cases planned.symm.trans planned'
  | ok plan => exact performs_startPlanned_iff planned

/-! ### What is asked for on the way to a connection -/

/-- A start may ask for this once it has loaded a library. -/
def JoinRequest (library : Native.Library) : Request → Prop
  | .call called _ => called = library
  | .find _ _ | .reserve _ _ | .spawn _ _ | .signal _ _ | .wait _ | .remove _ => True
  | _ => False

def Calls (library : Native.Library) (done : List Exchange) : Prop :=
  ∀ exchange ∈ done, ∃ call reply, exchange = .called library call reply

variable {library : Native.Library}

inductive Asking (library : Native.Library) :
    (Except Native.Failure Native.Handle → Exchange) → Prop
  | start : Asking library (startExchange library)
  | connect (target : Target) : Asking library (connectExchange library target)

theorem Asking.called {ask : Except Native.Failure Native.Handle → Exchange} (asking : Asking library ask)
    (reply : Except Native.Failure Native.Handle) :
    ∃ call reply', ask reply = .called library call reply' := by
  cases asking with
  | start => exact ⟨_, _, rfl⟩
  | connect target => exact ⟨_, _, rfl⟩

theorem Opening.calls {ask : Except Native.Failure Native.Handle → Exchange} {step : NativeStep}
    {result : Except Failure Native.Handle} (asking : Asking library ask)
    (opening : Opening library ask step done result) : Calls library done := by
  unfold Calls
  cases opening with
  | uninitialized failure =>
    rw [List.forall_mem_singleton]
    exact ⟨_, _, rfl⟩
  | unopened failure shutdown =>
    rw [List.forall_mem_cons, List.forall_mem_cons, List.forall_mem_singleton]
    exact ⟨⟨_, _, rfl⟩, asking.called _, ⟨_, _, rfl⟩⟩
  | opened handle =>
    rw [List.forall_mem_cons, List.forall_mem_singleton]
    exact ⟨⟨_, _, rfl⟩, asking.called _⟩

theorem Linking.calls {child : Child} {linked : Except Failure Link}
    (linking : Linking library child done linked) : Calls library done := by
  cases linking with
  | unaddressed failure refused =>
    intro exchange member
    cases member
  | tried target _ opened addressed opening => exact opening.calls (.connect target)

theorem Calls.joinRequest (calls : Calls library done) :
    ∀ exchange ∈ done, JoinRequest library exchange.request := by
  intro exchange member
  obtain ⟨call, reply, rfl⟩ := calls exchange member
  exact rfl

theorem killing_joinRequest (pid : UInt32) (kill : Except Kernel.Errno Unit)
    (reap : Except Kernel.Fault Kernel.Exit) :
    ∀ exchange ∈ killing pid kill reap, JoinRequest library exchange.request := by
  unfold killing
  cases kill with
  | ok u => simp [JoinRequest, Except.isOk, Except.toBool]
  | error errno => simp [JoinRequest, Except.isOk, Except.toBool]

theorem Launching.joinRequest {executable path : Octets} {connected : Except Failure Connection}
    (launching : Launching library executable path done connected) :
    ∀ exchange ∈ done, JoinRequest library exchange.request := by
  cases launching with
  | unspawned fault remove => simp [JoinRequest]
  | aborted pid rest failure kill reap remove linking =>
    have asked := linking.calls.joinRequest
    have killed : ∀ exchange ∈ killing pid kill reap, JoinRequest library exchange.request :=
      killing_joinRequest pid kill reap
    intro exchange member
    simp only [List.mem_cons, List.mem_append, List.not_mem_nil, or_false] at member
    rcases member with rfl | member | member | rfl
    · trivial
    · exact asked exchange member
    · exact killed exchange member
    · trivial
  | linked pid rest link linking =>
    rw [List.forall_mem_cons]
    exact ⟨trivial, linking.calls.joinRequest⟩

theorem Following.joinRequest {options : ChildOptions} {plan : Plan}
    {connected : Except Failure Connection}
    (following : Following library options plan done connected) :
    ∀ exchange ∈ done, JoinRequest library exchange.request := by
  cases following with
  | embedded _ opened opening => exact (opening.calls .start).joinRequest
  | standalone target _ opened opening => exact (opening.calls (.connect target)).joinRequest
  | managedChild _ _ childStart =>
    cases childStart with
    | unnamed empty => simp
    | unfound reason named => simp [JoinRequest]
    | unreserved executable fault named => simp [JoinRequest]
    | launched executable path rest _ named launching =>
      rw [List.forall_mem_cons, List.forall_mem_cons]
      exact ⟨trivial, trivial, launching.joinRequest⟩

theorem JoinRequest.loaded? {exchange : Exchange} (join : JoinRequest library exchange.request) :
    exchange.loaded? = none := by
  cases loaded : exchange.loaded? with
  | none => rfl
  | some other =>
    obtain ⟨name, rfl⟩ := Exchange.eq_of_loaded? loaded
    cases join

/-! ### Where a connection can fail -/

/-- A link to a child is refused before any call, or by the library. -/
theorem Linking.of_failed {child : Child} {failure : Failure}
    (linking : Linking library child done (.error failure)) :
    done = [] ∨ ∃ target,
      Opening library (connectExchange library target) .connect done (.error failure) := by
  generalize result : Except.error failure = linked at linking
  cases linking with
  | unaddressed other refused => exact .inl rfl
  | tried target _ opened addressed opening =>
    cases opened with
    | ok handle => cases result
    | error other =>
      cases result
      exact .inr ⟨target, opening⟩

/-- What makes a connection fail is that the library is not opened, or what has to do with a
child. -/
theorem Following.of_failed {options : ChildOptions} {plan : Plan} {failure : Failure}
    (following : Following library options plan done (.error failure)) :
    (∃ ask step, Asking library ask ∧ Opening library ask step done (.error failure)) ∨
      ChildStart library options done (.error failure) := by
  generalize result : Except.error failure = connected at following
  cases following with
  | embedded _ opened opening =>
    cases opened with
    | ok handle => cases result
    | error other =>
      cases result
      exact .inl ⟨_, _, .start, opening⟩
  | standalone target _ opened opening =>
    cases opened with
    | ok handle => cases result
    | error other =>
      cases result
      exact .inl ⟨_, _, .connect target, opening⟩
  | managedChild _ _ childStart =>
    cases result
    exact .inr childStart

end HostEngine.Session
