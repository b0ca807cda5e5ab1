import HostEngine.Proofs.Session.FirstFailure
import HostEngine.Proofs.Ensures
/-!
# What a log tells of failed steps

A trace tells of its failures (`Told`) if each step that fails is followed at once by a warning that
ends with the error's text, and there are no warnings besides, other than notices where these are
allowed. What can fail as a whole ends well, and then its trace tells of all failures, or badly
(`Ends`): then one failed step is returned instead, and all others are told of.
-/
set_option autoImplicit false

namespace HostEngine

/-- The event is a warning that ends with the text. -/
def Log.Event.Warns (event : Log.Event) (text : String) : Prop :=
  event.level = .warn ∧ ∃ before, event.message = before ++ text

namespace Exchange

def isWarning : Exchange → Bool
  | ⟨.log event, _⟩ => event.level = .warn
  | _ => false

/-- The error's text, if the exchange is a failed step. Not to find what is to be removed is no
failure. Loading the library is not among the steps, which come after it. -/
def trouble? : Exchange → Option String
  | ⟨.call _ _, .error failure⟩ => some failure.text
  | ⟨.find _ _, .error reason⟩ => some reason
  | ⟨.reserve _ _, .error fault⟩ | ⟨.spawn _ _, .error fault⟩ | ⟨.wait _, .error fault⟩ =>
    some fault.text
  | ⟨.runToEnd program _, reply⟩ =>
    match Program.verdict program reply with
    | .ok _ => none
    | .error failure => some failure.reason
  | ⟨.signal _ _, .error errno⟩ => some errno.labelled
  | ⟨.remove _, .error fault⟩ => if fault.isMissing then none else some fault.text
  | ⟨.unload library, .error reason⟩ => some (Failure.libraryUnload library.name reason).message
  | _ => none

/-- The failure that a failed step is returned as. What only cleans up is never returned. -/
def failure? : Exchange → Option Failure
  | ⟨.call _ call, .error failure⟩ => some (.native (Session.stepOf call.function) failure)
  | ⟨.find name _, .error reason⟩ => some (.executableNotFound name reason)
  | ⟨.reserve directory _, .error fault⟩ => some (.scratchFile directory fault)
  | ⟨.spawn program _, .error fault⟩ => some (.spawn program.shown fault.text)
  | ⟨.runToEnd program _, reply⟩ =>
    match Program.verdict program reply with
    | .ok _ => none
    | .error failure => some (.terminationCommand program.shown failure.reason)
  | ⟨.signal number _, .error errno⟩ => some (.forceKill number.toUInt32 errno.labelled)
  | _ => none

def isCleanup : Exchange → Bool
  | ⟨.wait _, _⟩ | ⟨.remove _, _⟩ | ⟨.unload _, _⟩ => true
  | _ => false

variable {step : Exchange}

theorem isEffect_of_trouble (troubled : step.trouble? ≠ none) : step.isEffect = true := by
  obtain ⟨request, reply⟩ := step
  cases request with
  | log event => exact absurd rfl troubled
  | _ => rfl

theorem untroubled_of_verdict {program : Octets} (arguments : List Octets)
    {reply : Except Kernel.Fault Kernel.Exit} (said : Program.verdict program reply = .ok ()) :
    trouble? ⟨.runToEnd program arguments, reply⟩ = none := by
  simp only [trouble?, said]

theorem exists_trouble_of_failure {failure : Failure} (is : step.failure? = some failure) :
    ∃ text before, step.trouble? = some text ∧ failure.message = before ++ text := by
  unfold failure? at is
  split at is
  · cases is
    exact ⟨_, _, rfl, rfl⟩
  · cases is
    exact ⟨_, _, rfl, rfl⟩
  · cases is
    exact ⟨_, _, rfl, rfl⟩
  · cases is
    exact ⟨_, _, rfl, rfl⟩
  · rename_i program arguments reply
    cases said : Program.verdict program reply with
    | ok u =>
      rw [said] at is
      cases is
    | error failure =>
      rw [said] at is
      cases is
      exact ⟨failure.reason, _, by simp only [trouble?, said], rfl⟩
  · cases is
    exact ⟨_, _, rfl, rfl⟩
  · cases is

end Exchange

/-! ### Traces that tell of their failures -/

/-- Every step that fails is followed at once by a warning that ends with the error's text, and
there are no other warnings, except for notices where they are allowed. -/
inductive Told (notices : Prop) : List Exchange → Prop
  | nil : Told notices []
  | calm (step : Exchange) (rest : List Exchange) (untroubled : step.trouble? = none)
      (quiet : step.isWarning = false) (told : Told notices rest) : Told notices (step :: rest)
  | failed (step : Exchange) (text : String) (event : Log.Event) (rest : List Exchange)
      (troubled : step.trouble? = some text) (warns : event.Warns text) (told : Told notices rest) :
    Told notices (step :: ⟨.log event, ()⟩ :: rest)
  | noticed (event : Log.Event) (rest : List Exchange) (allowed : notices)
      (told : Told notices rest) : Told notices (⟨.log event, ()⟩ :: rest)

def Warned (trace : List Exchange) : Prop := ∃ exchange ∈ trace, exchange.isWarning = true

namespace Told

variable {notices others : Prop} {first second trace : List Exchange} {step : Exchange}
  {text : String}

theorem append (tells : Told notices first) (more : Told notices second) :
    Told notices (first ++ second) := by
  induction tells with
  | nil => exact more
  | calm step rest untroubled quiet _ ih => exact .calm step _ untroubled quiet ih
  | failed step text event rest troubled warns _ ih =>
    exact .failed step text event _ troubled warns ih
  | noticed event rest allowed _ ih => exact .noticed event _ allowed ih

theorem mono (tells : Told notices trace) (allows : notices → others) : Told others trace := by
  induction tells with
  | nil => exact .nil
  | calm step rest untroubled quiet _ ih => exact .calm step rest untroubled quiet ih
  | failed step text event rest troubled warns _ ih =>
    exact .failed step text event rest troubled warns ih
  | noticed event rest allowed _ ih => exact .noticed event rest (allows allowed) ih

theorem exists_warning (tells : Told notices trace) (member : step ∈ trace)
    (troubled : step.trouble? = some text) :
    ∃ event, [step, ⟨.log event, ()⟩] <:+: trace ∧ event.Warns text := by
  induction tells with
  | nil => cases member
  | calm other rest untroubled quiet _ ih =>
    rcases List.mem_cons.mp member with rfl | member
    · cases untroubled.symm.trans troubled
    · obtain ⟨event, stands, warns⟩ := ih member
      exact ⟨event, stands.trans (List.infix_cons List.infix_rfl), warns⟩
  | failed other said event rest fails warns _ ih =>
    rcases List.mem_cons.mp member with rfl | member
    · cases fails.symm.trans troubled
      exact ⟨event, ⟨[], rest, rfl⟩, warns⟩
    · -- The warning itself is no step that could have failed.
      rcases List.mem_cons.mp member with rfl | member
      · cases troubled
      · obtain ⟨event, stands, warns⟩ := ih member
        exact ⟨event, stands.trans (List.suffix_append [_, _] rest).isInfix, warns⟩
  | noticed event rest allowed _ ih =>
    rcases List.mem_cons.mp member with rfl | member
    · cases troubled
    · obtain ⟨event, stands, warns⟩ := ih member
      exact ⟨event, stands.trans (List.infix_cons List.infix_rfl), warns⟩

/-- Without notices, there are warnings exactly if some step fails. -/
theorem warned_iff (tells : Told False trace) :
    Warned trace ↔ ∃ step ∈ trace, step.trouble? ≠ none := by
  constructor
  · rintro ⟨warning, member, warns⟩
    induction tells with
    | nil => cases member
    | calm step rest untroubled quiet _ ih =>
      rcases List.mem_cons.mp member with rfl | member
      · cases quiet.symm.trans warns
      · obtain ⟨step, among, troubled⟩ := ih member
        exact ⟨step, List.mem_cons_of_mem _ among, troubled⟩
    | failed step text event rest troubled _ _ _ =>
      exact ⟨step, List.mem_cons_self, by simp [troubled]⟩
    | noticed event rest allowed => exact allowed.elim
  · rintro ⟨step, member, troubled⟩
    obtain ⟨text, fails⟩ := Option.ne_none_iff_exists'.mp troubled
    obtain ⟨event, stands, level, -⟩ := tells.exists_warning member fails
    exact ⟨⟨.log event, ()⟩, stands.subset (by simp), decide_eq_true level⟩

end Told

/-! ### How something that can fail ends -/

/-- What is refused without a request: a program without a name, and a socket path with a NUL. -/
inductive Unasked : Failure → Prop
  | unnamed : Unasked (.executableNotFound "" Program.emptyName.reason)
  | unaddressed (path : Octets) (failure : Failure)
      (refused : Target.ofSocketPath path = .error failure) : Unasked failure

/-- What a failure that is returned is laid to: something that was not even asked for, one failed
step, or a child that could not be started, whose path is given up. -/
inductive Cause : List Exchange → Failure → Prop
  | unasked (failure : Failure) (is : Unasked failure) : Cause [] failure
  | step (step : Exchange) (failure : Failure) (is : step.failure? = some failure) :
    Cause [step] failure
  | unborn (program : Octets) (arguments : List Octets) (fault : Kernel.Fault) (path : Octets)
      (removed : Except Kernel.Fault Unit) :
    Cause [⟨.spawn program arguments, .error fault⟩, ⟨.remove path, removed⟩]
      (.spawn program.shown fault.text)

/-- Something ends well, with a trace that tells of all failures, or badly: then there is a cause
for what is returned, and the trace tells of all other failures. -/
inductive Ends {α : Type} : List Exchange → Except Failure α → Prop
  | well (trace : List Exchange) (a : α) (told : Told False trace) : Ends trace (.ok a)
  | badly (before cause after : List Exchange) (failure : Failure) (told : Told False before)
      (causes : Cause cause failure) (heard : Told True after) :
    Ends (before ++ cause ++ after) (.error failure)

namespace Ends

variable {α β : Type} {trace first second : List Exchange} {result : Except Failure α}

theorem failed {step : Exchange} {failure : Failure} (is : step.failure? = some failure) :
    Ends [step] (.error failure : Except Failure α) :=
  .badly [] [step] [] failure .nil (.step step failure is) .nil

theorem prepend (told : Told False first) (ends : Ends second result) :
    Ends (first ++ second) result := by
  cases ends with
  | well trace a tells => exact .well _ a (told.append tells)
  | badly before cause after failure tells causes heard =>
    rw [← List.append_assoc, ← List.append_assoc]
    exact .badly _ cause after failure (told.append tells) causes heard

theorem append (ends : Ends first result) (told : Told (result.isOk = false) second) :
    Ends (first ++ second) result := by
  cases ends with
  | well trace a tells => exact .well _ a (tells.append (told.mono nofun))
  | badly before cause after failure tells causes heard =>
    rw [List.append_assoc]
    exact .badly before cause _ failure tells causes (heard.append (told.mono fun _ => trivial))

theorem noticed {failure : Failure} (event : Log.Event)
    (ends : Ends first (.error failure : Except Failure α)) (told : Told False second) :
    Ends (first ++ ⟨.log event, ()⟩ :: second) (.error failure : Except Failure α) :=
  ends.append (.noticed event second rfl (told.mono False.elim))

theorem calm {step : Exchange} (untroubled : step.trouble? = none) (quiet : step.isWarning = false)
    (ends : Ends trace result) : Ends (step :: trace) result :=
  prepend (.calm step [] untroubled quiet .nil) ends

theorem map (f : α → β) (ends : Ends trace result) : Ends trace (result.map f) := by
  cases ends with
  | well trace a tells => exact .well trace (f a) tells
  | badly before cause after failure tells causes heard =>
    exact .badly before cause after failure tells causes heard

end Ends

/-! ### No failure is lost -/

section

variable {α : Type} {trace first second : List Exchange} {result : Except Failure α}

/-- A failure that is returned stands in a warning. -/
def Announced (trace : List Exchange) (result : Except Failure α) : Prop :=
  ∀ failure, result = .error failure →
    ∃ event, ⟨.log event, ()⟩ ∈ trace ∧ event.Warns failure.message

theorem Announced.mono (announced : Announced first result) (subset : first ⊆ second) :
    Announced second result := by
  intro failure fails
  obtain ⟨event, member, warns⟩ := announced failure fails
  exact ⟨event, subset member, warns⟩

/-- The removal of a path that no child ever listened at, because it could not be started. -/
def GivenUp (trace : List Exchange) (step : Exchange) : Prop :=
  ∃ program arguments fault, [⟨.spawn program arguments, .error fault⟩, step] <:+: trace

/-- Every step that fails is returned or warned of, what is returned is warned of, and there is no
warning unless something fails. -/
structure Accounted (trace : List Exchange) (result : Except Failure α) : Prop where
  steps : ∀ step ∈ trace, ∀ text, step.trouble? = some text → ¬ GivenUp trace step →
    (∃ failure, result = .error failure ∧ step.failure? = some failure) ∨
    ∃ event, [step, ⟨.log event, ()⟩] <:+: trace ∧ event.Warns text
  announced : Announced trace result
  calm : Warned trace → (∃ step ∈ trace, step.trouble? ≠ none) ∨
    ∃ failure, result = .error failure ∧ Unasked failure

theorem Ends.exists_trouble (ends : Ends trace result) (warned : Warned trace) :
    (∃ step ∈ trace, step.trouble? ≠ none) ∨
      ∃ failure, result = .error failure ∧ Unasked failure := by
  cases ends with
  | well _ a told => exact .inl (told.warned_iff.mp warned)
  | badly before cause after failure told causes heard =>
    cases causes with
    | unasked _ is => exact .inr ⟨failure, rfl, is⟩
    | step step _ is =>
      obtain ⟨text, said, troubled, -⟩ := Exchange.exists_trouble_of_failure is
      exact .inl ⟨step, by simp, by simp [troubled]⟩
    | unborn program arguments fault path removed =>
      exact .inl ⟨⟨.spawn program arguments, .error fault⟩, by simp, nofun⟩

theorem Ends.accounted (ends : Ends trace result) (announced : Announced trace result) :
    Accounted trace result := by
  refine ⟨?_, announced, ends.exists_trouble⟩
  intro step member text troubled kept
  cases ends with
  | well _ a told => exact .inr (told.exists_warning member troubled)
  | badly before cause after failure told causes heard =>
    rcases List.mem_append.mp member with member | member
    · rcases List.mem_append.mp member with member | member
      · obtain ⟨event, stands, warns⟩ := told.exists_warning member troubled
        rw [List.append_assoc]
        exact .inr ⟨event, stands.trans (List.prefix_append _ _).isInfix, warns⟩
      · cases causes with
        | unasked => cases member
        | step own _ is =>
          obtain rfl := List.mem_singleton.mp member
          exact .inl ⟨failure, rfl, is⟩
        | unborn program arguments fault path removed =>
          -- The failed spawn is returned, and the removal behind it is of a path given up.
          rcases List.mem_cons.mp member with rfl | member
          · exact .inl ⟨_, rfl, rfl⟩
          · obtain rfl := List.mem_singleton.mp member
            exact absurd ⟨program, arguments, fault, before, after, rfl⟩ kept
    · obtain ⟨event, stands, warns⟩ := heard.exists_warning member troubled
      exact .inr ⟨event, stands.trans (List.suffix_append _ _).isInfix, warns⟩

end

namespace Procedure

variable {α β : Type}

/-- Whatever the procedure is replied, the log tells of the failures. -/
abbrev Tells (notices : Prop) (p : Procedure α) : Prop :=
  p.Ensures fun trace _ => Told notices trace

theorem Tells.bind {notices : Prop} {p : Procedure α} {go : α → Procedure β}
    (first : p.Tells notices) (second : ∀ a, (go a).Tells notices) : (p >>= go).Tells notices :=
  Ensures.bind first fun _ a told => (second a).mono fun _ _ more => told.append more

/-- The procedure, which can fail, ends well or badly, as the log tells. -/
abbrev Reported (p : Procedure (Except Failure α)) : Prop := p.Ensures Ends

variable {p : Procedure (Except Failure α)} {go : Except Failure α → Procedure (Except Failure β)}

theorem Reported.bind (reported : p.Reported) (succeeds : ∀ a, (go (.ok a)).Reported)
    (fails : ∀ failure, (go (.error failure)).Ensures fun trace result =>
      Told True trace ∧ result = .error failure) :
    (p >>= go).Reported := by
  refine Ensures.bind reported fun first result ends => ?_
  cases ends with
  | well _ a told => exact (succeeds a).mono fun rest b ends => ends.prepend told
  | badly before cause after failure told causes heard =>
    refine (fails failure).mono ?_
    rintro rest _ ⟨more, rfl⟩
    rw [List.append_assoc]
    exact .badly before cause _ failure told causes (heard.append more)

theorem ensures_error (failure : Failure) :
    Ensures (pure (.error failure) : Procedure (Except Failure β)) fun trace result =>
      Told True trace ∧ result = .error failure :=
  ⟨.nil, rfl⟩

theorem Tells.bind_pure {notices : Prop} {p : Procedure α} (tells : p.Tells notices) (b : β) :
    (p >>= fun _ => pure b).Ensures fun trace result => Told notices trace ∧ result = b := by
  refine Ensures.bind tells fun trace _ told => ?_
  show Told notices (trace ++ []) ∧ b = b
  rw [List.append_nil]
  exact ⟨told, rfl⟩

theorem Tells.error {notices : Prop} {p : Procedure α} (tells : p.Tells notices)
    (failure : Failure) :
    (p >>= fun _ => pure (.error failure : Except Failure β)).Ensures fun trace result =>
      Told True trace ∧ result = .error failure :=
  (tells.bind_pure _).mono fun _ _ ⟨told, is⟩ => ⟨told.mono fun _ => trivial, is⟩

theorem Reported.bind_tells {q : Procedure β} (reported : p.Reported) (tells : q.Tells False) :
    (p >>= fun result => q >>= fun _ => pure result).Reported := by
  refine Ensures.bind reported fun trace result ends => (tells.bind_pure result).mono ?_
  rintro rest _ ⟨told, rfl⟩
  exact ends.append (told.mono False.elim)

theorem Reported.map (f : α → β) (reported : p.Reported) : (Except.map f <$> p).Reported := by
  refine Ensures.bind reported fun trace result ends => ?_
  show Ends (trace ++ []) _
  rw [List.append_nil]
  exact ends.map f

end Procedure

end HostEngine
