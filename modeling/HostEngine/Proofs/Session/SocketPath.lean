import HostEngine.Machine.Basic
import HostEngine.Proofs.Config.Arguments
import HostEngine.Proofs.Files
import HostEngine.Proofs.Session.Reversal
/-!
# The path of a child's socket

A valid configuration for a managed child has a stem that makes, with a random suffix, the name of
one entry of the scratch directory. The path to that entry is what the child, the library and the
session get, and it is removed in the end (`socket_path_contained`).
-/
set_option autoImplicit false

namespace HostEngine

/-! ### Random names -/

namespace Machine

/-- Six letters or digits, all of them ASCII. -/
def IsSuffix (suffix : Octets) : Prop :=
  ∃ cs : List Char, cs.length = suffixLength ∧ (∀ c ∈ cs, c.isAlphanum = true) ∧
    suffix = .ofString (String.ofList cs)

/-- The name of a directory made absolute, given that of the working directory. -/
def anchored (working directory : Octets) : Octets :=
  if isAbsolute directory then directory else Lookup.join working directory

/-- A path that a file was created under in a directory, with a stem and a random suffix. No file
can be created under a name with a NUL. -/
def Drawn (working directory : Octets) (stem : String) (path : Octets) : Prop :=
  ∃ suffix, IsSuffix suffix ∧ path.hasNul = false ∧
    path = Lookup.join (anchored working directory) (.ofString stem ++ suffix)

theorem isAlphanum_of_mem_suffixChars {width n : Nat} {c : Char}
    (member : c ∈ suffixChars width n) :
    c.isAlphanum = true := by
  induction width generalizing n with
  | zero => cases member
  | succ width ih =>
    rw [suffixChars, List.mem_append, List.mem_singleton] at member
    rcases member with before | rfl
    · exact ih before
    · have alphabet : suffixAlphabet.all Char.isAlphanum = true := by decide
      cases drawn : suffixAlphabet[n % suffixAlphabet.length]? with
      | none => rfl
      | some c => exact List.all_eq_true.mp alphabet c (List.mem_of_getElem? drawn)

theorem length_suffixChars (width n : Nat) : (suffixChars width n).length = width := by
  induction width generalizing n with
  | zero => rfl
  | succ width ih => rw [suffixChars, List.length_append, ih, List.length_singleton]

theorem isSuffix_suffixOctets (n : Nat) : IsSuffix (suffixOctets n) :=
  ⟨suffixChars suffixLength n, length_suffixChars suffixLength n,
    fun _ => isAlphanum_of_mem_suffixChars, rfl⟩

theorem drawn_of_createUnused {files after : Files} {directory : Directory}
    {base stem path : Octets} {tries n : Nat}
    (created : createUnused files directory base stem tries n = .ok (path, after)) :
    (∃ suffix, IsSuffix suffix ∧ path.hasNul = false ∧ path = Lookup.join base (stem ++ suffix)) ∧
      ∃ place, files.create directory path = .ok (after, place) := by
  induction tries generalizing n with
  | zero => cases created
  | succ tries ih =>
    simp only [createUnused] at created
    split at created
    · cases created
    · rename_i nulFree
      split at created
      · rename_i place creates
        cases created
        have random := isSuffix_suffixOctets n
        exact ⟨⟨suffixOctets n, random, by simpa using nulFree, rfl⟩, place, creates⟩
      · split at created
        · exact ih created
        · cases created

/-- A machine has an absolute name for its working directory, draws the paths that it reserves, and
creates a file under them. -/
theorem drawn_of_reserve {machine after : Machine} {working directory path : Octets} {stem : String}
    (works : machine.directory.name? = some working)
    (reserved : machine.reserve directory stem = (.ok path, after)) :
    isAbsolute working = true ∧ Drawn working directory stem path ∧
      ∃ place, machine.files.create machine.directory path = .ok (after.files, place) := by
  refine ⟨isAbsolute_of_name? works, ?_⟩
  unfold reserve at reserved
  rw [works] at reserved
  have based : (if isAbsolute directory then .ok directory else
      .ok (Lookup.join working directory) : Except Kernel.Fault Octets) =
      .ok (anchored working directory) := by
    unfold anchored
    split
    · rfl
    · rfl
  simp only [based] at reserved
  split at reserved
  · cases reserved
  · rename_i created
    cases reserved
    exact drawn_of_createUnused created

theorem isEntryName_append {stem : String} {suffix : Octets}
    (single : stem.toList.contains '/' = false) (random : IsSuffix suffix) :
    IsEntryName (.ofString stem ++ suffix) := by
  obtain ⟨cs, count, alphanum, rfl⟩ := random
  have plain : slash ∉ Octets.ofString (String.ofList cs) := by
    rw [Octets.mem_ofString_iff (by decide) '/' rfl, String.toList_ofList]
    intro member
    cases alphanum _ member
  have long : 6 ≤ (Octets.ofString stem ++ Octets.ofString (String.ofList cs)).length := by
    have size : cs.length ≤ (Octets.ofString (String.ofList cs)).length :=
      Octets.length_le_ofString cs
    rw [List.length_append]
    have six : suffixLength = 6 := rfl
    omega
  refine ⟨?_, ?_, ?_, ?_⟩
  · intro same
    simp [same] at long
  · intro same
    simp [same] at long
  · intro same
    simp [same] at long
  · rw [List.mem_append, not_or]
    refine ⟨?_, plain⟩
    rw [Octets.mem_ofString_iff (by decide) '/' rfl]
    simpa using single

theorem isAbsolute_anchored {working : Octets} (absolute : isAbsolute working = true)
    (directory : Octets) : isAbsolute (anchored working directory) = true := by
  unfold anchored
  split
  · assumption
  · rename_i relative
    exact Lookup.isAbsolute_join absolute (Bool.eq_false_iff.mpr relative)

theorem Drawn.namesEntry {working directory path : Octets} {stem : String}
    (absolute : isAbsolute working = true) (single : stem.toList.contains '/' = false)
    (drawn : Drawn working directory stem path) :
    path.hasNul = false ∧ ∃ suffix, IsSuffix suffix ∧
      Files.NamesEntry (anchored working directory) (.ofString stem ++ suffix) path := by
  obtain ⟨suffix, random, nulFree, rfl⟩ := drawn
  exact ⟨nulFree, suffix, random,
    Files.namesEntry_join (isAbsolute_anchored absolute directory)
      (isEntryName_append single random)⟩

end Machine

/-! ### Steps with a path -/

/-- What is done with a path, or with an address. -/
inductive PathStep where
  | reserved (directory : Octets) (stem : String) (path : Octets)
  | passed (arguments : List Octets)
  | connected (address : Octets) (params : Native.ConnectParams)
  | removed (path : Octets)
  deriving DecidableEq

def Exchange.pathStep? : Exchange → Option PathStep
  | ⟨.reserve directory stem, .ok path⟩ => some (.reserved directory stem path)
  | ⟨.spawn _ arguments, _⟩ => some (.passed arguments)
  | ⟨.call _ (.connect address params), _⟩ => some (.connected address params)
  | ⟨.remove path, _⟩ => some (.removed path)
  | _ => none

def pathSteps (done : List Exchange) : List PathStep := done.filterMap Exchange.pathStep?

theorem pathSteps_append (first second : List Exchange) :
    pathSteps (first ++ second) = pathSteps first ++ pathSteps second :=
  List.filterMap_append

theorem pathSteps_eq_nil {done : List Exchange}
    (still : ∀ exchange ∈ done, exchange.pathStep? = none) : pathSteps done = [] :=
  List.filterMap_eq_nil_iff.mpr still

def Connection.socketPath? (connection : Connection) : Option Octets :=
  connection.child?.map (·.socketPath)

theorem Config.stem_single {config : Config} (mode : config.mode = .managedChild)
    (valid : config.validate = .ok ()) :
    config.child.socketStem.toList.contains '/' = false := by
  have sound := Config.validateSection_of_validate valid
  simp only [validateSection, mode, validateChild] at sound
  split at sound
  · cases sound
  · split at sound
    · cases sound
    · rename_i free
      exact Bool.eq_false_iff.mpr free

namespace Session

open Procedure Machine

def socketPath? (session : Session) : Option Octets := session.child?.map (·.socketPath)

/-- A start that reserved a path passes it on unchanged. If the start fails, the path is removed; if
it ends with a session, this holds the path. No other path is reserved or removed. -/
structure PathPassed (child : ChildOptions) (path : Octets) (steps : List PathStep)
    (held : Except Failure (Option Octets)) : Prop where
  failed : ∀ failure, held = .error failure →
    steps = [.reserved child.scratchDirectory child.socketStem path,
      .passed [.ofString socketArgument, path], .removed path] ∨
    steps = [.reserved child.scratchDirectory child.socketStem path,
      .passed [.ofString socketArgument, path], .connected path (.ofFlag 1), .removed path]
  started : ∀ found, held = .ok found → found = some path ∧
    steps = [.reserved child.scratchDirectory child.socketStem path,
      .passed [.ofString socketArgument, path], .connected path (.ofFlag 1)]

/-- What a start of a managed child comes to, as far as paths go. -/
structure PathKept (working : Octets) (child : ChildOptions) (steps : List PathStep)
    (held : Except Failure (Option Octets)) : Prop where
  /-- A start does not fail for a NUL in the path, nor for any other argument. -/
  accepted : ∀ failure, held = .error failure → failure.kind ≠ .arguments
  /-- A start that reserves no path fails. Otherwise the path names an entry of the scratch
  directory, by the stem and a random suffix. -/
  contained : (steps = [] ∧ ∃ failure, held = .error failure) ∨
    ∃ path suffix, IsSuffix suffix ∧
      Files.NamesEntry (anchored working child.scratchDirectory)
        (.ofString child.socketStem ++ suffix) path ∧
      PathPassed child path steps held

variable {library : Native.Library} {done : List Exchange}

/-! ### The start -/

theorem Opening.pathSteps_eq {target : Target} {opened : Except Failure Native.Handle}
    (opening : Opening library (connectExchange library target) .connect done opened) :
    (pathSteps done = [] ∧ ∃ failure, opened = .error failure) ∨
      pathSteps done = [.connected target.octets (.ofFlag target.flag)] := by
  cases opening with
  | uninitialized failure => exact .inl ⟨rfl, _, rfl⟩
  | unopened failure shutdown => exact .inr rfl
  | opened handle => exact .inr rfl

theorem Linking.pathSteps_eq {child : Child} {linked : Except Failure Link}
    (nulFree : child.socketPath.hasNul = false) (linking : Linking library child done linked) :
    (∀ failure, linked = .error failure → failure.kind ≠ .arguments) ∧
      ((pathSteps done = [] ∧ ∃ failure, linked = .error failure) ∨
        pathSteps done = [.connected child.socketPath (.ofFlag 1)]) := by
  have accepted := Target.ofSocketPath_eq_ok nulFree
  cases linking with
  | unaddressed failure refused => cases accepted.symm.trans refused
  | tried target _ opened addressed opening =>
    cases accepted.symm.trans addressed
    cases opened with
    | ok handle =>
      refine ⟨?_, ?_⟩
      · rintro failure ⟨⟩
      · rcases opening.pathSteps_eq with ⟨-, failure, ⟨⟩⟩ | connects
        exact .inr connects
    | error failure =>
      refine ⟨?_, ?_⟩
      · rintro _ ⟨⟩
        exact opening.kind_ne_arguments
      · rcases opening.pathSteps_eq with ⟨nothing, -⟩ | connects
        · exact .inl ⟨nothing, failure, rfl⟩
        · exact .inr connects

theorem pathSteps_killing (pid : UInt32) (kill : Except Kernel.Errno Unit)
    (reap : Except Kernel.Fault Kernel.Exit) : pathSteps (killing pid kill reap) = [] := by
  cases kill with
  | ok u => rfl
  | error errno => rfl

theorem Launching.pathPassed (child : ChildOptions) {executable path : Octets}
    {connected : Except Failure Connection} (nulFree : path.hasNul = false)
    (launching : Launching library executable path done connected) :
    (∀ failure, connected = .error failure → failure.kind ≠ .arguments) ∧
      PathPassed child path
        (.reserved child.scratchDirectory child.socketStem path :: pathSteps done)
        (connected.map Connection.socketPath?) := by
  cases launching with
  | unspawned fault remove =>
    refine ⟨?_, ?_, ?_⟩
    · rintro failure ⟨⟩
      simp [Failure.kind]
    · intro _ _
      exact .inl rfl
    · rintro found ⟨⟩
  | aborted pid rest failure kill reap remove linking =>
    obtain ⟨accepted, steps⟩ := linking.pathSteps_eq nulFree
    have ends : pathSteps (rest ++ (killing pid kill reap ++ [⟨.remove path, remove⟩])) =
        pathSteps rest ++ [.removed path] := by
      rw [pathSteps_append, pathSteps_append, pathSteps_killing]
      rfl
    have whole : pathSteps (⟨.spawn executable [.ofString socketArgument, path], .ok pid⟩ ::
        (rest ++ (killing pid kill reap ++ [⟨.remove path, remove⟩]))) =
        .passed [.ofString socketArgument, path] :: (pathSteps rest ++ [.removed path]) := by
      rw [← ends]
      rfl
    refine ⟨?_, ?_, ?_⟩
    · rintro _ ⟨⟩
      exact accepted failure rfl
    · intro _ _
      rw [whole]
      rcases steps with ⟨nothing, -⟩ | connects
      · rw [nothing]
        exact .inl rfl
      · rw [connects]
        exact .inr rfl
    · rintro found ⟨⟩
  | linked pid rest link linking =>
    obtain ⟨-, steps⟩ := linking.pathSteps_eq nulFree
    rcases steps with ⟨-, failure, ⟨⟩⟩ | connects
    refine ⟨?_, ?_, ?_⟩
    · rintro failure ⟨⟩
    · rintro failure ⟨⟩
    · rintro found ⟨⟩
      exact ⟨rfl, congrArg (PathStep.reserved _ _ path :: .passed _ :: ·) connects⟩

theorem PathKept.of_failed {working : Octets} {child : ChildOptions} {failure : Failure}
    (accepted : failure.kind ≠ .arguments) : PathKept working child [] (.error failure) := by
  refine ⟨?_, .inl ⟨rfl, failure, rfl⟩⟩
  rintro _ ⟨⟩
  exact accepted

variable {working : Octets}

theorem ChildStart.pathKept {child : ChildOptions} {connected : Except Failure Connection}
    (absolute : isAbsolute working = true)
    (single : child.socketStem.toList.contains '/' = false)
    (drawn : ∀ directory stem path, ⟨.reserve directory stem, .ok path⟩ ∈ done →
      Drawn working directory stem path)
    (start : ChildStart library child done connected) :
    PathKept working child (pathSteps done) (connected.map Connection.socketPath?) := by
  cases start with
  | unnamed empty => exact .of_failed (by simp [Failure.kind])
  | unfound reason named => exact .of_failed (by simp [Failure.kind])
  | unreserved executable fault named => exact .of_failed (by simp [Failure.kind])
  | launched executable path rest _ named launching =>
    obtain ⟨nulFree, suffix, random, entry⟩ :=
      (drawn child.scratchDirectory child.socketStem path (by simp)).namesEntry absolute single
    obtain ⟨accepted, passed⟩ := launching.pathPassed child nulFree
    refine ⟨?_, .inr ⟨path, suffix, random, entry, passed⟩⟩
    intro failure failed
    cases connected with
    | ok connection => cases failed
    | error first =>
      cases failed
      exact accepted failure rfl

theorem Startup.pathKept {options : Options} {args : List String}
    {result : Except Failure Session} (absolute : isAbsolute working = true)
    (single : options.child.socketStem.toList.contains '/' = false)
    (drawn : ∀ directory stem path, ⟨.reserve directory stem, .ok path⟩ ∈ done →
      Drawn working directory stem path)
    (startup : Startup options .managedChild args done result) :
    PathKept working options.child (pathSteps done) (result.map socketPath?) := by
  cases startup with
  | refused failure unplanned => cases unplanned
  | unloaded plan reason planned => exact .of_failed (by simp [Failure.kind])
  | failed plan library rest failure unload planned following =>
    cases planned
    cases following with
    | managedChild _ _ childStart =>
      have same : pathSteps (⟨.load options.library, .ok library⟩ :: rest ++
          [⟨.unload library, unload⟩]) = pathSteps rest := by
        rw [pathSteps_append]
        exact List.append_nil _
      rw [same]
      exact childStart.pathKept absolute single fun directory stem path member =>
        drawn directory stem path (by simp [member])
  | started plan library rest connection planned following =>
    cases planned
    cases following with
    | managedChild _ _ childStart =>
      exact childStart.pathKept absolute single fun directory stem path member =>
        drawn directory stem path (by simp [member])

/-! ### The end -/

theorem pathStep?_closeExchange (session : Session) (reply : Except Native.Failure Unit) :
    (session.closeExchange reply).pathStep? = none := by
  unfold closeExchange
  cases session.connection with
  | embedded handle => rfl
  | standalone link => rfl
  | managedChild link child => rfl

theorem pathSteps_teardown (session : Session) (closing : Closing) :
    pathSteps (session.teardown closing) = (session.socketPath?.map .removed).toList := by
  have parts : pathSteps ([session.closeExchange closing.close] ++
      (if closing.close.isOk then [.called session.library .shutdown closing.shutdown] else [])) =
      [] := by
    apply pathSteps_eq_nil
    rw [List.forall_mem_append, List.forall_mem_singleton]
    exact ⟨pathStep?_closeExchange session closing.close, forall_mem_ite rfl⟩
  have bereaves : pathSteps (session.bereaving closing) =
      (session.socketPath?.map .removed).toList := by
    unfold bereaving socketPath?
    cases session.child? with
    | none => rfl
    | some child =>
      have dismisses : pathSteps (dismissal child closing) = [] :=
        pathSteps_eq_nil (forall_mem_dismissal rfl rfl rfl)
      rw [pathSteps_append, dismisses]
      rfl
  unfold teardown lowering
  rw [pathSteps_append, pathSteps_append, parts, bereaves, List.nil_append]
  exact List.append_nil _

theorem pathSteps_dropping (session : Session) (removed : Except Kernel.Fault Unit) :
    pathSteps (session.dropping removed) = (session.socketPath?.map .removed).toList := by
  unfold dropping socketPath?
  cases session.child? with
  | none => rfl
  | some child => rfl

theorem pathSteps_end {session : Session} {path : Octets}
    (holds : session.socketPath? = some path) :
    (∀ closed outcome, session.shutdown.Performs closed outcome →
      pathSteps closed = [.removed path]) ∧
    ∀ dropped, session.drop.Performs dropped () → pathSteps dropped = [.removed path] := by
  refine ⟨?_, ?_⟩
  · intro closed outcome closes
    obtain ⟨closing, rfl, -⟩ := performs_shutdown_iff.mp closes
    rw [pathSteps_teardown, holds]
    rfl
  · intro dropped drops
    obtain ⟨removed, rfl⟩ := performs_drop_iff.mp drops
    rw [pathSteps_dropping, holds]
    rfl

/-! ### The whole -/

/-- A valid configuration for a managed child keeps its socket's path in the scratch directory:
however the surroundings answer a start, as long as they draw the paths that they reserve, the path
reserved is an entry of that directory, and the one that the child listens at, the library connects
to and the session holds; it is removed if the start fails, and else at the end of the session. -/
theorem socket_path_contained {config : Config} (mode : config.mode = .managedChild)
    (valid : config.validate = .ok ()) {working : Octets} (absolute : isAbsolute working = true)
    {trace : List Exchange} {result : Except Failure Session}
    (started : Yields (start config.options config.mode config.startupArgs) trace result)
    (drawn : ∀ directory stem path, ⟨.reserve directory stem, .ok path⟩ ∈ trace →
      Drawn working directory stem path) :
    PathKept working config.child (pathSteps (effects trace)) (result.map socketPath?) ∧
    ∀ session path, result = .ok session → session.socketPath? = some path →
      (∀ closed outcome, session.shutdown.Performs closed outcome →
        pathSteps closed = [.removed path]) ∧
      ∀ dropped, session.drop.Performs dropped () → pathSteps dropped = [.removed path] := by
  have single := Config.stem_single mode valid
  have startup := performs_start_iff.mp started.performs
  rw [mode] at startup
  have inEffects : ∀ directory stem path, ⟨.reserve directory stem, .ok path⟩ ∈ effects trace →
      Drawn working directory stem path :=
    fun directory stem path member => drawn directory stem path (List.mem_of_mem_filter member)
  refine ⟨startup.pathKept absolute single inEffects, ?_⟩
  intro session path _ holds
  exact pathSteps_end holds

/-- A relative scratch directory with a name that is no text, and no stem at all. -/
theorem socket_path_contained_of_relative :
    let directory : Octets := [0x72, 0xFF]
    let config : Config := { Config.ofMode .managedChild with
      child := ⟨"engine", none, directory, ""⟩ }
    let path : Octets := .ofString "/srv/" ++ directory ++ .ofString "/AAAAA0"
    config.mode = .managedChild ∧ config.validate = .ok () ∧
      isAbsolute (.ofString "/srv") = true ∧
      ∃ trace session,
        Yields (start config.options config.mode config.startupArgs) trace (.ok session) ∧
        (∀ directory stem path, ⟨.reserve directory stem, .ok path⟩ ∈ trace →
          Drawn (.ofString "/srv") directory stem path) ∧
        session.socketPath? = some path ∧
        pathSteps (effects trace) = [.reserved directory "" path,
          .passed [.ofString socketArgument, path], .connected path (.ofFlag 1)] := by
  intro directory config path
  have valid : config.validate = .ok () := by decide +kernel
  have absolute : isAbsolute (.ofString "/srv") = true := by decide +kernel
  have nulFree : path.hasNul = false := by decide +kernel
  have isDrawn : Drawn (.ofString "/srv") directory "" path :=
    ⟨.ofString "AAAAA0", ⟨"AAAAA0".toList, rfl, List.all_eq_true.mp rfl, rfl⟩, nulFree,
      by decide +kernel⟩
  let target : Target := ⟨path, 1, nulFree⟩
  let library : Native.Library := ⟨0, config.library⟩
  have linking : Linking library ⟨42, [47], path⟩ _ (.ok ⟨⟨7⟩, target⟩) :=
    .tried target _ (.ok ⟨7⟩) (Target.ofSocketPath_eq_ok nulFree) (.opened ⟨7⟩)
  have startup : Startup config.options .managedChild config.startupArgs _
      (.ok ⟨library, .managedChild ⟨⟨7⟩, target⟩ ⟨42, [47], path⟩⟩) :=
    .started .managedChild library _ _ rfl
      (.managedChild _ _ (.launched [47] path _ _ rfl (.linked 42 _ _ linking)))
  obtain ⟨trace, started, did⟩ := performs_start_iff.mpr startup
  have drawn : ∀ directory stem path, ⟨.reserve directory stem, .ok path⟩ ∈ trace →
      Drawn (.ofString "/srv") directory stem path := by
    intro directory stem other member
    have effect : ⟨.reserve directory stem, .ok other⟩ ∈ effects trace :=
      List.mem_filter.mpr ⟨member, rfl⟩
    rw [did] at effect
    obtain ⟨⟨rfl, rfl⟩, rfl⟩ : (directory = config.options.child.scratchDirectory ∧
        stem = config.options.child.socketStem) ∧ other = path := by
      simpa [connectExchange] using effect
    exact isDrawn
  obtain ⟨kept, -⟩ := socket_path_contained rfl valid absolute started drawn
  rcases kept.contained with ⟨-, failure, failed⟩ | ⟨other, suffix, -, -, passed⟩
  · cases failed
  · obtain ⟨same, steps⟩ := passed.started _ rfl
    cases same
    exact ⟨rfl, valid, absolute, trace, _, started, drawn, rfl, steps⟩

end Session

end HostEngine
