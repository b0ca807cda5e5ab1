import HostEngine.Proofs.Session.Startup
import HostEngine.Proofs.Session.Teardown
/-!
# Instances of a library

Loading a library gives an instance with a number of its own. A start, a shutdown or a drop of a
session goes with one instance as it goes with any other: the exchanges are the same but for the
number, and so is what comes of them.
-/
set_option autoImplicit false

namespace HostEngine

def Native.Library.renumbered (id : Nat) (library : Native.Library) : Native.Library :=
  ⟨id, library.name⟩

namespace Exchange

/-- The exchange as it is with another instance of the library. -/
def renumbered (id : Nat) : Exchange → Exchange
  | ⟨.load name, .ok library⟩ => ⟨.load name, .ok (library.renumbered id)⟩
  | ⟨.call library called, reply⟩ => ⟨.call (library.renumbered id) called, reply⟩
  | ⟨.unload library, reply⟩ => ⟨.unload (library.renumbered id), reply⟩
  | ⟨.discard library, reply⟩ => ⟨.discard (library.renumbered id), reply⟩
  | exchange => exchange

end Exchange

namespace Session

variable {id : Nat} {library : Native.Library} {done : List Exchange}

def renumbered (id : Nat) (session : Session) : Session :=
  ⟨session.library.renumbered id, session.connection⟩

theorem Opening.renumbered {ask ask' : Except Native.Failure Native.Handle → Exchange}
    {step : NativeStep} {opened : Except Failure Native.Handle}
    (opening : Opening library ask step done opened)
    (asks : ∀ reply, (ask reply).renumbered id = ask' reply) :
    Opening (library.renumbered id) ask' step (done.map (Exchange.renumbered id)) opened := by
  cases opening with
  | uninitialized failure => exact .uninitialized failure
  | unopened failure shutdown =>
    have opening : Opening (library.renumbered id) ask' step _ _ := .unopened failure shutdown
    rwa [← asks] at opening
  | opened handle =>
    have opening : Opening (library.renumbered id) ask' step _ _ := .opened handle
    rwa [← asks] at opening

theorem Linking.renumbered {child : Child} {linked : Except Failure Link}
    (linking : Linking library child done linked) :
    Linking (library.renumbered id) child (done.map (Exchange.renumbered id)) linked := by
  cases linking with
  | unaddressed failure refused => exact .unaddressed failure refused
  | tried target _ opened addressed opening =>
    exact .tried target _ opened addressed (opening.renumbered fun _ => rfl)

theorem killing_renumbered (pid : UInt32) (kill : Except Kernel.Errno Unit)
    (reap : Except Kernel.Fault Kernel.Exit) :
    (killing pid kill reap).map (Exchange.renumbered id) = killing pid kill reap := by
  cases kill with
  | ok u => rfl
  | error errno => rfl

theorem Launching.renumbered {executable path : Octets} {connected : Except Failure Connection}
    (launching : Launching library executable path done connected) :
    Launching (library.renumbered id) executable path (done.map (Exchange.renumbered id))
      connected := by
  cases launching with
  | unspawned fault remove => exact .unspawned fault remove
  | aborted pid rest failure kill reap remove linking =>
    have launching : Launching (library.renumbered id) executable path _ _ :=
      .aborted pid _ failure kill reap remove linking.renumbered
    rw [List.map_cons, List.map_append, List.map_append, killing_renumbered]
    exact launching
  | linked pid rest link linking => exact .linked pid _ link linking.renumbered

theorem Following.renumbered {options : ChildOptions} {plan : Plan}
    {connected : Except Failure Connection}
    (following : Following library options plan done connected) :
    Following (library.renumbered id) options plan (done.map (Exchange.renumbered id))
      connected := by
  cases following with
  | embedded _ opened opening => exact .embedded _ opened (opening.renumbered fun _ => rfl)
  | standalone target _ opened opening =>
    exact .standalone target _ opened (opening.renumbered fun _ => rfl)
  | managedChild _ _ childStart =>
    refine .managedChild _ _ ?_
    cases childStart with
    | unnamed empty => exact .unnamed empty
    | unfound reason named => exact .unfound reason named
    | unreserved executable fault named => exact .unreserved executable fault named
    | launched executable path rest _ named launching =>
      exact .launched executable path _ _ named launching.renumbered

theorem Startup.renumbered {options : Options} {mode : Mode} {args : List String}
    {result : Except Failure Session} (id : Nat) (startup : Startup options mode args done result) :
    Startup options mode args (done.map (Exchange.renumbered id))
      (result.map (Session.renumbered id)) := by
  cases startup with
  | refused failure unplanned => exact .refused failure unplanned
  | unloaded plan reason planned => exact .unloaded plan reason planned
  | failed plan library rest failure unload planned following =>
    rw [List.map_append]
    exact .failed plan (library.renumbered id) _ failure unload planned following.renumbered
  | started plan library rest connection planned following =>
    exact .started plan (library.renumbered id) _ connection planned following.renumbered

variable {session : Session}

theorem closeExchange_renumbered (reply : Except Native.Failure Unit) :
    (session.renumbered id).closeExchange reply =
      (session.closeExchange reply).renumbered id := by
  obtain ⟨library, connection⟩ := session
  cases connection with
  | embedded handle => rfl
  | standalone link => rfl
  | managedChild link child => rfl

theorem bereaving_renumbered (closing : Closing) :
    (session.bereaving closing).map (Exchange.renumbered id) = session.bereaving closing := by
  have same : ∀ exchange ∈ session.bereaving closing, exchange.renumbered id = exchange := by
    unfold bereaving
    cases session.child? with
    | none => exact List.forall_mem_nil _
    | some child =>
      rw [List.forall_mem_append, List.forall_mem_singleton]
      exact ⟨forall_mem_dismissal rfl rfl rfl, rfl⟩
  exact (List.map_congr_left same).trans (List.map_id _)

theorem teardown_renumbered (closing : Closing) :
    (session.renumbered id).teardown closing =
      (session.teardown closing).map (Exchange.renumbered id) := by
  have shuts : (if closing.close.isOk then [Exchange.called session.library .shutdown
      closing.shutdown] else []).map (Exchange.renumbered id) = if closing.close.isOk then
      [.called (session.library.renumbered id) .shutdown closing.shutdown] else [] := by
    cases closing.close.isOk with
    | true => rfl
    | false => rfl
  unfold teardown lowering
  rw [List.map_append, List.map_append, List.map_append, shuts, bereaving_renumbered,
    closeExchange_renumbered]
  rfl

theorem dropping_renumbered (removed : Except Kernel.Fault Unit) :
    (session.renumbered id).dropping removed =
      (session.dropping removed).map (Exchange.renumbered id) := by
  obtain ⟨library, connection⟩ := session
  cases connection with
  | embedded handle => rfl
  | standalone link => rfl
  | managedChild link child => rfl

end Session

end HostEngine
