import HostEngine.Config.Validation
import HostEngine.Proofs.Session.Reversal
import HostEngine.Proofs.StandIn
import HostEngine.Proofs.Target
/-!
# What is meant for other modes is not read

A mode reads its own section of a configuration, and only the standalone mode reads arguments, of
which it takes the first two. Whatever else is said makes no difference to how a configuration is
judged, to a start, or to the shutdown after it. Starts are compared as procedures: equal ones make
the same requests and come to the same result in all surroundings.
-/
set_option autoImplicit false

namespace HostEngine

/-- For the mode, the options say the same: only a child is started with more than the library. -/
structure Options.SameFor (mode : Mode) (first second : Options) : Prop where
  library : first.library = second.library
  child : mode = .managedChild → first.child = second.child

namespace Session

variable {mode : Mode} {args others : List String} {first second : Options}

def SameArgs (mode : Mode) (args others : List String) : Prop :=
  mode = .standalone → args.take 2 = others.take 2

theorem SameArgs.make_eq (same : SameArgs mode args others) :
    Plan.make mode args = Plan.make mode others := by
  cases mode with
  | embedded => rfl
  | managedChild => rfl
  | standalone =>
    unfold Plan.make
    rw [← Target.ofArgs_take args, same rfl, Target.ofArgs_take]

theorem follow_eq {plan : Plan} {child other : ChildOptions}
    (same : plan = .managedChild → child = other) (library : Native.Library) :
    follow library child plan = follow library other plan := by
  cases plan with
  | embedded => rfl
  | standalone target => rfl
  | managedChild => rw [same rfl]

theorem startPlanned_eq {plan : Plan} (library : first.library = second.library)
    (child : plan = .managedChild → first.child = second.child) :
    startPlanned first mode plan = startPlanned second mode plan := by
  obtain ⟨name, child⟩ := first
  obtain ⟨_, other⟩ := second
  cases library
  -- Both continuations match on the reply to the load, so they agree only once it is taken apart.
  refine bind_congr fun _ => bind_congr fun reply => ?_
  cases reply with
  | error reason => rfl
  | ok loaded => exact bind_congr fun _ => congrArg (· >>= _) (follow_eq child loaded)

theorem start_eq (sameOptions : first.SameFor mode second) (sameArgs : SameArgs mode args others) :
    start first mode args = start second mode others := by
  unfold start
  rw [sameArgs.make_eq]
  cases planned : Plan.make mode others with
  | error failure => rfl
  | ok plan =>
    refine startPlanned_eq sameOptions.library fun own => sameOptions.child ?_
    rw [← Plan.mode_of_make planned, own]
    rfl

theorem startAndShutDown_eq (sameOptions : first.SameFor mode second)
    (sameArgs : SameArgs mode args others) :
    startAndShutDown first mode args = startAndShutDown second mode others := by
  unfold startAndShutDown
  rw [start_eq sameOptions sameArgs]

end Session

namespace Config

open Session

variable {first second : Config}

/-- The configurations agree on the mode, on what all modes read and on the section that the mode
reads. -/
structure SameForMode (first second : Config) : Prop where
  mode : first.mode = second.mode
  logLevel : first.logLevel = second.logLevel
  library : first.library = second.library
  standalone : first.mode = .standalone → first.standalone = second.standalone
  child : first.mode = .managedChild → first.child = second.child

namespace SameForMode

theorem validateSection_eq (same : SameForMode first second) :
    first.validateSection = second.validateSection := by
  unfold validateSection
  rw [← same.mode]
  cases mode : first.mode with
  | embedded => rfl
  | standalone =>
    rw [same.standalone mode]
    cases second.standalone <;> rfl
  | managedChild => rw [same.child mode]

theorem validate_eq (same : SameForMode first second) : first.validate = second.validate := by
  unfold validate
  rw [same.logLevel, same.library, same.validateSection_eq]

theorem startupArgs_eq (same : SameForMode first second) :
    first.startupArgs = second.startupArgs := by
  unfold startupArgs
  rw [← same.mode]
  cases mode : first.mode with
  | embedded => rfl
  | standalone => rw [same.standalone mode]
  | managedChild => rfl

theorem options (same : SameForMode first second) :
    first.options.SameFor first.mode second.options :=
  ⟨same.library, same.child⟩

end SameForMode

/-- Sections of other modes and arguments that the mode does not take have no influence on how a
configuration is judged, nor on a start and the shutdown after it. -/
theorem other_modes_unread :
    (∀ first second : Config, SameForMode first second →
      first.validate = second.validate ∧
        startAndShutDown first.options first.mode first.startupArgs =
          startAndShutDown second.options second.mode second.startupArgs) ∧
    ∀ (options : Options) (mode : Mode) (args others : List String), SameArgs mode args others →
      startAndShutDown options mode args = startAndShutDown options mode others := by
  constructor
  · intro first second same
    refine ⟨same.validate_eq, ?_⟩
    rw [same.startupArgs_eq, ← same.mode]
    exact startAndShutDown_eq same.options fun _ => rfl
  · intro options mode args others same
    exact startAndShutDown_eq ⟨rfl, fun _ => rfl⟩ same

/-- An embedded session does not care for a section without a program, nor a standalone one for a
third argument. -/
theorem other_modes_unread_of_invalid :
    let plain : Config := .ofMode .embedded
    let other : Config := { plain with standalone := some ⟨"", 0⟩, child := ⟨"", none, [], "/"⟩ }
    SameForMode plain other ∧ validateChild other.child = .error .executableEmpty ∧
      plain.validate = other.validate ∧
      startAndShutDown plain.options .embedded [] = startAndShutDown other.options .embedded [] ∧
      startAndShutDown plain.options .standalone ["host", "0"] =
        startAndShutDown plain.options .standalone ["host", "0", "1"] := by
  intro plain other
  have same : SameForMode plain other := ⟨rfl, rfl, rfl, nofun, nofun⟩
  obtain ⟨judged, started⟩ := other_modes_unread.1 plain other same
  exact ⟨same, rfl, judged, started, other_modes_unread.2 _ .standalone _ _ fun _ => rfl⟩

end Config

end HostEngine
