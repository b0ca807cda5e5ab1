import HostEngine.Procedure.Trace
/-!
# What a procedure does, log events apart

`Procedure.Performs p done result` says that `p` can end with `result` after exactly the exchanges
`done` and any log events. It is taken apart along the procedure: nothing for a result, one exchange
for a request that is no log event, and two lists in a row for two procedures in a row. Every
procedure can perform something, since every request has some reply.
-/
set_option autoImplicit false

namespace HostEngine

/-- Whether an exchange is more than the writing of a log event. -/
def Exchange.isEffect : Exchange → Bool
  | ⟨.log _, _⟩ => false
  | _ => true

def effects (trace : List Exchange) : List Exchange := trace.filter Exchange.isEffect

@[simp] theorem effects_append (first second : List Exchange) :
    effects (first ++ second) = effects first ++ effects second :=
  List.filter_append first second

abbrev Exchange.called (library : Native.Library) (call : Native.Call)
    (reply : Except Native.Failure call.Value) : Exchange :=
  ⟨.call library call, reply⟩

/-! ### What an exchange is about -/

namespace Exchange

def loaded? : Exchange → Option Native.Library
  | ⟨.load _, .ok library⟩ => some library
  | _ => none

/-- The library that is called or let go of. -/
def used? : Exchange → Option Native.Library
  | ⟨.call library _, _⟩ | ⟨.unload library, _⟩ | ⟨.discard library, _⟩ => some library
  | _ => none

@[simp] def isInitialized : Exchange → Bool
  | ⟨.call _ .init, .ok _⟩ => true
  | _ => false

@[simp] def spawned? : Exchange → Option UInt32
  | ⟨.spawn _ _, .ok pid⟩ => some pid
  | _ => none

@[simp] def reaped? : Exchange → Option UInt32
  | ⟨.wait pid, .ok _⟩ => some pid
  | _ => none

@[simp] def isSignal : Exchange → Bool
  | ⟨.signal _ _, _⟩ => true
  | _ => false

@[simp] def isWait : Exchange → Bool
  | ⟨.wait _, _⟩ => true
  | _ => false

variable {exchange : Exchange}

theorem eq_of_loaded? {library : Native.Library} (loaded : exchange.loaded? = some library) :
    ∃ name, exchange = ⟨.load name, .ok library⟩ := by
  unfold loaded? at loaded
  split at loaded
  · cases loaded
    exact ⟨_, rfl⟩
  · cases loaded

theorem eq_of_spawned? {pid : UInt32} (spawned : exchange.spawned? = some pid) :
    ∃ program arguments, exchange = ⟨.spawn program arguments, .ok pid⟩ := by
  unfold spawned? at spawned
  split at spawned
  · cases spawned
    exact ⟨_, _, rfl⟩
  · cases spawned

theorem eq_of_reaped? {pid : UInt32} (reaped : exchange.reaped? = some pid) :
    ∃ exit, exchange = ⟨.wait pid, .ok exit⟩ := by
  unfold reaped? at reaped
  split at reaped
  · cases reaped
    exact ⟨_, rfl⟩
  · cases reaped

end Exchange

/-! ### Rules -/

/-- By a rule that says what may follow what was done before, each exchange may follow. -/
def Obeys (rule : List Exchange → Exchange → Prop) (past : List Exchange) : List Exchange → Prop
  | [] => True
  | exchange :: rest => rule past exchange ∧ Obeys rule (past ++ [exchange]) rest

theorem obeys_append_iff {rule : List Exchange → Exchange → Prop}
    {past first second : List Exchange} :
    Obeys rule past (first ++ second) ↔
      Obeys rule past first ∧ Obeys rule (past ++ first) second := by
  induction first generalizing past with
  | nil =>
    rw [List.append_nil]
    exact (and_iff_right trivial).symm
  | cons exchange rest ih =>
    rw [List.cons_append, Obeys, Obeys, ih, and_assoc, List.append_assoc, List.singleton_append]

namespace Procedure

variable {α β : Type}

/-- The procedure can make these exchanges, log events apart, and end with the result. -/
def Performs (p : Procedure α) (done : List Exchange) (result : α) : Prop :=
  ∃ trace, Yields p trace result ∧ effects trace = done

theorem Yields.performs {p : Procedure α} {trace : List Exchange} {a : α} (h : Yields p trace a) :
    p.Performs (effects trace) a :=
  ⟨trace, h, rfl⟩

theorem performs_pure_iff {a b : α} {done : List Exchange} :
    (pure a : Procedure α).Performs done b ↔ done = [] ∧ b = a := by
  constructor
  · rintro ⟨trace, h, rfl⟩
    cases h with
    | done result => exact ⟨rfl, rfl⟩
  · rintro ⟨rfl, rfl⟩
    exact ⟨[], .done b, rfl⟩

theorem performs_bind_iff {p : Procedure α} {go : α → Procedure β} {done : List Exchange} {b : β} :
    (p >>= go).Performs done b ↔
      ∃ first second a, done = first ++ second ∧ p.Performs first a ∧ (go a).Performs second b := by
  constructor
  · rintro ⟨trace, h, rfl⟩
    obtain ⟨first, second, a, rfl, hp, hgo⟩ := h.exists_of_bind
    exact ⟨_, _, a, effects_append first second, hp.performs, hgo.performs⟩
  · rintro ⟨_, _, a, rfl, ⟨first, hp, rfl⟩, ⟨second, hgo, rfl⟩⟩
    exact ⟨first ++ second, hp.bind hgo, effects_append first second⟩

theorem performs_request_iff {r : Request} {next : r.Reply → Procedure α} {done : List Exchange}
    {a : α} :
    (request r next).Performs done a ↔
      ∃ reply rest, done = effects [⟨r, reply⟩] ++ rest ∧ (next reply).Performs rest a := by
  constructor
  · rintro ⟨trace, h, rfl⟩
    cases h with
    | request _ _ reply trace _ rest =>
      exact ⟨reply, effects trace, effects_append [⟨r, reply⟩] trace, rest.performs⟩
  · rintro ⟨reply, _, rfl, trace, rest, rfl⟩
    exact ⟨⟨r, reply⟩ :: trace, .request r next reply trace a rest,
      effects_append [⟨r, reply⟩] trace⟩

theorem performs_ask_iff {r : Request} {go : r.Reply → Procedure β} {done : List Exchange} {b : β} :
    (perform r >>= go).Performs done b ↔
      ∃ reply rest, done = effects [⟨r, reply⟩] ++ rest ∧ (go reply).Performs rest b :=
  performs_request_iff

/-! ### Procedures that only log -/

/-- The procedure makes no exchanges but log events, and ends with the result. -/
def Silent (p : Procedure α) (result : α) : Prop :=
  ∀ done b, p.Performs done b ↔ done = [] ∧ b = result

theorem silent_pure (a : α) : Silent (pure a) a :=
  fun _ _ => performs_pure_iff

theorem Silent.performs_bind_iff {p : Procedure α} {go : α → Procedure β} {a : α} (hp : Silent p a)
    {done : List Exchange} {b : β} :
    (p >>= go).Performs done b ↔ (go a).Performs done b := by
  rw [Procedure.performs_bind_iff]
  constructor
  · rintro ⟨first, second, a', rfl, hfirst, hsecond⟩
    obtain ⟨rfl, rfl⟩ := (hp first a').mp hfirst
    exact hsecond
  · intro hgo
    exact ⟨[], done, a, rfl, (hp [] a).mpr ⟨rfl, rfl⟩, hgo⟩

theorem Silent.bind {p : Procedure α} {go : α → Procedure β} {a : α} {b : β} (hp : Silent p a)
    (hgo : Silent (go a) b) : Silent (p >>= go) b := by
  intro done b'
  rw [hp.performs_bind_iff]
  exact hgo done b'

theorem silent_log (level : Log.Level) (origin : Log.Origin) (message : String) :
    Silent (log level origin message) () := by
  intro done u
  have asked : (log level origin message).Performs done u ↔ _ := performs_request_iff
  rw [asked]
  constructor
  · rintro ⟨_, rest, rfl, h⟩
    exact performs_pure_iff.mp h
  · rintro ⟨rfl, rfl⟩
    exact ⟨(), [], rfl, performs_pure_iff.mpr ⟨rfl, rfl⟩⟩

/-- What only logs after a procedure adds nothing to what that does. -/
theorem performs_bind_silent_iff {p : Procedure α} {go : α → Procedure β} {f : α → β}
    (silent : ∀ a, Silent (go a) (f a)) {done : List Exchange} {b : β} :
    (p >>= go).Performs done b ↔ ∃ a, p.Performs done a ∧ b = f a := by
  rw [performs_bind_iff]
  constructor
  · rintro ⟨first, second, a, rfl, hp, h⟩
    obtain ⟨rfl, rfl⟩ := (silent a second b).mp h
    exact ⟨a, by rwa [List.append_nil], rfl⟩
  · rintro ⟨a, hp, rfl⟩
    exact ⟨done, [], a, (List.append_nil done).symm, hp, (silent a [] _).mpr ⟨rfl, rfl⟩⟩

theorem performs_map_iff {p : Procedure α} {f : α → β} {done : List Exchange} {b : β} :
    (f <$> p).Performs done b ↔ ∃ a, p.Performs done a ∧ b = f a := by
  rw [map_eq_pure_bind]
  exact performs_bind_silent_iff fun a => silent_pure (f a)

/-- One request, after which the result is known: the shape of every single step. -/
theorem performs_step_iff {r : Request} {go : r.Reply → Procedure β} {f : r.Reply → β}
    (silent : ∀ reply, Silent (go reply) (f reply)) {done : List Exchange} {b : β} :
    (perform r >>= go).Performs done b ↔ ∃ reply, done = effects [⟨r, reply⟩] ∧ b = f reply := by
  rw [performs_ask_iff]
  constructor
  · rintro ⟨reply, rest, rfl, h⟩
    obtain ⟨rfl, rfl⟩ := (silent reply rest b).mp h
    exact ⟨reply, List.append_nil _, rfl⟩
  · rintro ⟨reply, rfl, rfl⟩
    exact ⟨reply, [], (List.append_nil _).symm, (silent reply [] _).mpr ⟨rfl, rfl⟩⟩

/-! ### What may be requested -/

/-- All that the procedure may ever request satisfies the predicate. -/
def Asks (P : Request → Prop) : Procedure α → Prop
  | .done _ => True
  | .request r next => P r ∧ ∀ reply, Asks P (next reply)

theorem Asks.bind {P : Request → Prop} {p : Procedure α} {go : α → Procedure β} (asks : Asks P p)
    (then_ : ∀ a, Asks P (go a)) : Asks P (p >>= go) := by
  induction p with
  | done a => exact then_ a
  | request r next ih => exact ⟨asks.1, fun reply => ih reply (asks.2 reply)⟩

theorem asks_perform {P : Request → Prop} {r : Request} (holds : P r) : Asks P (perform r) :=
  ⟨holds, fun _ => trivial⟩

/-! ### What can be performed -/

def anyReply : (r : Request) → r.Reply
  | .log _ | .selectLog _ | .discard _ | .pause _ => ()
  | .load _ | .find _ _ => .error ""
  | .call _ _ => .error ⟨0, ""⟩
  | .unload _ | .signal _ _ | .remove _ | .catchSignal _ => .ok ()
  | .reserve _ _ | .read _ => .ok []
  | .spawn _ _ => .ok 0
  | .runToEnd _ _ | .wait _ => .ok (.code 0)
  | .environment _ => none
  | .awaitSignal => .interrupt

theorem exists_performs (p : Procedure α) : ∃ done result, p.Performs done result := by
  induction p with
  | done result => exact ⟨[], result, performs_pure_iff.mpr ⟨rfl, rfl⟩⟩
  | request r next ih =>
    obtain ⟨done, result, performs⟩ := ih (anyReply r)
    exact ⟨_, result, performs_request_iff.mpr ⟨anyReply r, done, rfl, performs⟩⟩

/-! ### Given replies -/

/-- Every reply is the one that a function gives for the request. -/
def Replied (reply : (r : Request) → r.Reply) (done : List Exchange) : Prop :=
  ∀ exchange ∈ done, exchange.reply = reply exchange.request

/-- Replies that a function gives leave a procedure one way to go. -/
theorem Performs.unique {reply : (r : Request) → r.Reply} {p : Procedure α}
    {done done' : List Exchange} {a a' : α} (performs : p.Performs done a)
    (performs' : p.Performs done' a') (replied : Replied reply done)
    (replied' : Replied reply done') : done' = done ∧ a' = a := by
  induction p generalizing done done' with
  | done result =>
    obtain ⟨rfl, rfl⟩ := performs_pure_iff.mp performs
    exact performs_pure_iff.mp performs'
  | request r next ih =>
    obtain ⟨given, rest, rfl, goes⟩ := performs_request_iff.mp performs
    obtain ⟨given', rest', rfl, goes'⟩ := performs_request_iff.mp performs'
    obtain ⟨repliedHere, repliedRest⟩ := List.forall_mem_append.mp replied
    obtain ⟨repliedHere', repliedRest'⟩ := List.forall_mem_append.mp replied'
    -- A log event leaves no exchange behind, but there is only one reply to it.
    have same : given' = given := by
      cases r with
      | log event => rfl
      | _ => exact (repliedHere' _ List.mem_cons_self).trans (repliedHere _ List.mem_cons_self).symm
    subst same
    obtain ⟨rfl, rfl⟩ := ih given' goes goes' repliedRest repliedRest'
    exact ⟨rfl, rfl⟩

end Procedure

end HostEngine
