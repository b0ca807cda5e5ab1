import HostEngine.CommandLine.Configuration
import Mathlib.Control.Monad.Basic
/-!
# A file's configuration and the options of the command line

The configuration in a file is judged as it stands there, and once more with the options of the
command line in the place of its own entries (`file_judged_first`). Every option then shows in the
outcome, except that the switch for a Unix socket goes unheard without an address beside it
(`overrides_of_configuration`).
-/
set_option autoImplicit false

namespace HostEngine

namespace Config

variable {config valid : Config}

theorem validated_eq_ok_iff :
    config.validated = .ok valid ↔ config.validate = .ok () ∧ valid = config := by
  unfold validated
  cases config.validate with
  | ok u =>
    constructor
    · rintro ⟨⟩
      exact ⟨rfl, rfl⟩
    · rintro ⟨-, rfl⟩
      rfl
  | error failure =>
    constructor
    · rintro ⟨⟩
    · rintro ⟨⟨⟩, -⟩

theorem validated_eq_error_iff {failure : Failure} :
    config.validated = .error failure ↔ config.validate = .error failure := by
  unfold validated
  cases config.validate with
  | ok u => exact ⟨nofun, nofun⟩
  | error other =>
    constructor
    · rintro ⟨⟩
      rfl
    · rintro ⟨⟩
      rfl

end Config

namespace CommandLine.Arguments

open Config

variable {arguments : Arguments} {read : Octets → Except Kernel.Fault Octets} {path text : String}
  {octets : Octets} {file config : Config}

/-! ### Judging -/

theorem configuration_of_loaded (named : arguments.config = some path) :
    arguments.configuration read =
      (Config.loadFile (.ofString path) (read (.ofString path))).bind fun file =>
        (arguments.override file).validated := by
  unfold configuration base
  rw [named]

/-- A configuration that was parsed is judged, and then judged with the options in place. -/
theorem configuration_of_parsed (named : arguments.config = some path)
    (readable : read (.ofString path) = .ok octets) (isText : octets.text? = some text)
    (parsed : Config.parse text = .ok file) :
    arguments.configuration read =
      file.validate.bind fun _ => (arguments.override file).validated := by
  have loaded : Config.loadFile (.ofString path) (read (.ofString path)) = file.validated := by
    unfold Config.loadFile Config.load
    rw [readable]
    dsimp only
    rw [isText]
    dsimp only
    rw [parsed]
    rfl
  rw [configuration_of_loaded named, loaded]
  unfold validated
  cases file.validate with
  | ok u => rfl
  | error failure => rfl

/-- The options have a say in the section that is judged, and in nothing that is judged before. -/
theorem validate_override (arguments : Arguments) (file : Config) :
    (arguments.override file).validate = file.validate ∨
      file.validate = file.validateSection := by
  unfold Config.validate
  by_cases level : Config.isLogLevel file.logLevel = true
  · by_cases library : file.library = ""
    · left
      simp [override, level, library]
    · right
      simp [level, library]
  · left
    simp [override, level]

theorem override_eq_self (mode : arguments.mode.getD file.mode = file.mode)
    (address : arguments.address = none) : arguments.override file = file := by
  unfold override standalone?
  rw [mode, address]
  rfl

/-- Nothing is judged but the configuration with the options in place: there is one exactly if that
is valid, and what is wrong with it is what is reported. -/
def EffectiveJudged (arguments : Arguments) (read : Octets → Except Kernel.Fault Octets)
    (file : Config) : Prop :=
  ((∃ config, arguments.configuration read = .ok config) ↔
      (arguments.override file).validate = .ok ()) ∧
    ∀ failure, (arguments.override file).validate = .error failure →
      arguments.configuration read = .error failure

theorem effectiveJudged_of_eq_validated
    (judged : arguments.configuration read = (arguments.override file).validated) :
    EffectiveJudged arguments read file := by
  unfold EffectiveJudged
  rw [judged]
  constructor
  · constructor
    · rintro ⟨config, valid⟩
      exact (validated_eq_ok_iff.mp valid).1
    · intro valid
      exact ⟨_, validated_eq_ok_iff.mpr ⟨valid, rfl⟩⟩
  · intro failure wrong
    exact validated_eq_error_iff.mpr wrong

/-- Without a file, it is the configuration with the options in place that is judged. -/
theorem effectiveJudged_of_mode {mode : Mode} (unnamed : arguments.config = none)
    (given : arguments.mode = some mode) : EffectiveJudged arguments read (.ofMode mode) := by
  apply effectiveJudged_of_eq_validated
  unfold configuration base
  rw [unnamed, given]
  rfl

/-- Only the effective configuration is judged if what is wrong with the file is wrong with that
too. -/
theorem effectiveJudged_iff
    (judged : arguments.configuration read =
      file.validate.bind fun _ => (arguments.override file).validated) :
    EffectiveJudged arguments read file ↔ ∀ failure, file.validate = .error failure →
      (arguments.override file).validate = .error failure := by
  cases alone : file.validate with
  | ok u =>
    rw [alone] at judged
    exact iff_of_true (effectiveJudged_of_eq_validated judged) nofun
  | error failure =>
    have refused : arguments.configuration read = .error failure := by
      rw [judged, alone]
      rfl
    constructor
    · rintro ⟨accepted, reported⟩ _ ⟨⟩
      cases whole : (arguments.override file).validate with
      | ok u =>
        obtain ⟨config, valid⟩ := accepted.mpr whole
        cases refused.symm.trans valid
      | error other =>
        cases refused.symm.trans (reported other whole)
        rfl
    · intro same
      have whole := validated_eq_error_iff.mpr (same failure rfl)
      exact effectiveJudged_of_eq_validated (refused.trans whole.symm)

/-- What the options can make up for is wrong with a section, and they set another mode or bring
another section. -/
theorem validateSection_of_override_ne {failure : Config.Failure}
    (alone : file.validate = .error failure)
    (whole : (arguments.override file).validate ≠ .error failure) :
    file.validateSection = .error failure ∧
      (arguments.mode.getD file.mode ≠ file.mode ∨ arguments.address ≠ none) := by
  have judged : file.validate = file.validateSection :=
    (validate_override arguments file).resolve_left fun same => whole (same.trans alone)
  refine ⟨judged.symm.trans alone, ?_⟩
  by_cases mode : arguments.mode.getD file.mode = file.mode
  · right
    intro address
    rw [override_eq_self mode address] at whole
    exact whole alone
  · exact .inl mode

/-- A configuration in a file has to be valid twice, as it stands and with the options in place, and
what is wrong with it as it stands is reported first. So the options cannot make up for anything: where
more than the effective configuration is judged, that is because the section that the file's mode uses
is wrong, and the options set another mode or bring another section. -/
theorem file_judged_first (named : arguments.config = some path)
    (readable : read (.ofString path) = .ok octets) (isText : octets.text? = some text)
    (parsed : Config.parse text = .ok file) :
    (∀ config, arguments.configuration read = .ok config ↔
      file.validate = .ok () ∧ (arguments.override file).validate = .ok () ∧
        config = arguments.override file) ∧
    (∀ failure, arguments.configuration read = .error failure ↔
      file.validate = .error failure ∨
        file.validate = .ok () ∧ (arguments.override file).validate = .error failure) ∧
    (EffectiveJudged arguments read file ↔ ∀ failure, file.validate = .error failure →
      (arguments.override file).validate = .error failure) ∧
    (¬ EffectiveJudged arguments read file →
      ∃ failure, file.validateSection = .error failure ∧
        (arguments.mode.getD file.mode ≠ file.mode ∨ arguments.address ≠ none)) := by
  have judged := configuration_of_parsed named readable isText parsed
  have effective := effectiveJudged_iff judged
  refine ⟨?_, ?_, effective, ?_⟩
  · intro config
    rw [judged]
    cases file.validate with
    | ok u => exact validated_eq_ok_iff.trans (and_iff_right rfl).symm
    | error failure => exact ⟨nofun, nofun⟩
  · intro failure
    rw [judged]
    cases file.validate with
    | ok u => simpa [Except.bind] using validated_eq_error_iff
    | error other => simp [Except.bind]
  · intro more
    obtain ⟨failure, wrong⟩ := not_forall.mp fun all => more (effective.mpr all)
    obtain ⟨alone, whole⟩ := Classical.not_imp.mp wrong
    exact ⟨failure, validateSection_of_override_ne alone whole⟩

/-- A file whose mode is to start a child of no name, and another mode on the command line. -/
theorem file_judged_first_of_mode :
    let text := "mode: managed_child\nhostengine: \x7bexecutable: ''\x7d\n"
    let arguments : Arguments := { empty with config := some "/c", mode := some .embedded }
    let read (_ : Octets) : Except Kernel.Fault Octets := .ok (.ofString text)
    let file : Config :=
      { Config.ofMode .managedChild with child := { ChildOptions.default with executable := "" } }
    arguments.config = some "/c" ∧ read (.ofString "/c") = .ok (.ofString text) ∧
      (Octets.ofString text).text? = some text ∧ Config.parse text = .ok file ∧
      arguments.configuration read = .error .executableEmpty := by
  intro text arguments read file
  have isText : (Octets.ofString text).text? = some text := by decide +kernel
  have parsed : Config.parse text = .ok file := by decide +kernel
  have alone : file.validate = .error .executableEmpty := by decide +kernel
  have named : arguments.config = some "/c" := rfl
  have readable : read (.ofString "/c") = .ok (.ofString text) := rfl
  refine ⟨named, readable, isText, parsed, ?_⟩
  exact ((file_judged_first named readable isText parsed).2.1 _).mpr (.inl alone)

/-- A file in standalone mode gives no address. With one on the command line the configuration would
be valid, but the file is refused. -/
theorem not_effectiveJudged_of_address :
    let text := "mode: standalone\n"
    let arguments : Arguments := { empty with config := some "/c", address := some "localhost" }
    let read (_ : Octets) : Except Kernel.Fault Octets := .ok (.ofString text)
    let file := Config.ofMode .standalone
    Config.parse text = .ok file ∧ (arguments.override file).validate = .ok () ∧
      arguments.configuration read = .error .standaloneMissing ∧
      ¬ EffectiveJudged arguments read file := by
  intro text arguments read file
  have parsed : Config.parse text = .ok file := by decide +kernel
  have valid : (arguments.override file).validate = .ok () := by decide +kernel
  have refused : arguments.configuration read = .error .standaloneMissing := by decide +kernel
  refine ⟨parsed, valid, refused, ?_⟩
  rintro ⟨accepted, -⟩
  obtain ⟨config, found⟩ := accepted.mpr valid
  cases refused.symm.trans found

/-! ### What is overridden -/

/-- What is given on the command line stands in the place of the file's, and all else is the file's.
The switch for a Unix socket goes with the address. -/
structure Overrides (arguments : Arguments) (file config : Config) : Prop where
  mode : config.mode = arguments.mode.getD file.mode
  address : config.standalone.map StandaloneConfig.address =
    (arguments.address <|> file.standalone.map StandaloneConfig.address)
  flag : arguments.address ≠ none →
    config.standalone.map StandaloneConfig.flag = some (if arguments.unixSocket then 1 else 0)
  kept : arguments.address = none → config.standalone = file.standalone
  logLevel : config.logLevel = file.logLevel
  library : config.library = file.library
  child : config.child = file.child

/-- The switch for a Unix socket is heard: a section that is there says so. -/
def SwitchHeard (arguments : Arguments) (config : Config) : Prop :=
  arguments.unixSocket = true → ∀ standalone ∈ config.standalone, standalone.flag ≠ 0

theorem overrides_override (arguments : Arguments) (file : Config) :
    Overrides arguments file (arguments.override file) where
  mode := rfl
  address := by
    unfold override standalone?
    cases arguments.address with
    | none => rfl
    | some address => rfl
  flag := by
    intro given
    unfold override standalone?
    cases address : arguments.address with
    | none => exact absurd address given
    | some address => rfl
  kept := by
    intro absent
    unfold override standalone?
    rw [absent]
    rfl
  logLevel := rfl
  library := rfl
  child := rfl

theorem Overrides.switchHeard_iff (overrides : Overrides arguments file config) :
    SwitchHeard arguments config ↔ (arguments.unixSocket = true → arguments.address = none →
      ∀ standalone ∈ file.standalone, standalone.flag ≠ 0) := by
  unfold SwitchHeard
  cases address : arguments.address with
  | none =>
    rw [overrides.kept address]
    exact ⟨fun heard switch _ => heard switch, fun heard switch => heard switch rfl⟩
  | some given =>
    have flag := overrides.flag (by rw [address]; exact nofun)
    refine iff_of_true ?_ fun _ => nofun
    intro switch standalone member
    rw [Option.mem_def.mp member, switch, Option.map_some] at flag
    rw [Option.some.inj flag]
    decide

/-- Whatever a file holds and whichever options are given: if there is a configuration in the end,
every option shows in it and all else is the file's, but for the switch for a Unix socket. That is
heard exactly if an address comes with it, or the file's section, if there is one, says so itself. -/
theorem overrides_of_configuration (named : arguments.config = some path)
    (loaded : Config.loadFile (.ofString path) (read (.ofString path)) = .ok file)
    (accepted : arguments.configuration read = .ok config) :
    Overrides arguments file config ∧
      (SwitchHeard arguments config ↔ (arguments.unixSocket = true → arguments.address = none →
        ∀ standalone ∈ file.standalone, standalone.flag ≠ 0)) := by
  have valid : (arguments.override file).validated = .ok config := by
    rw [← accepted, configuration_of_loaded named, loaded]
    rfl
  obtain ⟨-, rfl⟩ := validated_eq_ok_iff.mp valid
  have overrides := overrides_override arguments file
  exact ⟨overrides, overrides.switchHeard_iff⟩

/-- A file in embedded mode, and an address and its kind on the command line. -/
theorem overrides_of_configuration_of_socket :
    let text := "mode: embedded\nlog_level: debug\n"
    let arguments : Arguments := ⟨some "/c", some .standalone, some "/s", true, false, none⟩
    let read (_ : Octets) : Except Kernel.Fault Octets := .ok (.ofString text)
    let file : Config := { Config.ofMode .embedded with logLevel := "debug" }
    let config : Config :=
      { file with mode := .standalone, standalone := some ⟨"/s", 1⟩ }
    arguments.config = some "/c" ∧
      Config.loadFile (.ofString "/c") (read (.ofString "/c")) = .ok file ∧
      arguments.configuration read = .ok config ∧ Overrides arguments file config := by
  intro text arguments read file config
  have named : arguments.config = some "/c" := rfl
  have loaded : Config.loadFile (.ofString "/c") (read (.ofString "/c")) = .ok file := by
    decide +kernel
  have accepted : arguments.configuration read = .ok config := by
    rw [configuration_of_loaded named, loaded]
    decide +kernel
  exact ⟨named, loaded, accepted, (overrides_of_configuration named loaded accepted).1⟩

/-- With the address in a file, the switch for a Unix socket goes unheard. -/
theorem not_switchHeard_of_file :
    let text := "mode: standalone\nstandalone:\n  address: /run/nvidia-dcgm.sock\n"
    let arguments : Arguments := { empty with config := some "/c", unixSocket := true }
    let read (_ : Octets) : Except Kernel.Fault Octets := .ok (.ofString text)
    let file : Config :=
      { Config.ofMode .standalone with standalone := some ⟨"/run/nvidia-dcgm.sock", 0⟩ }
    Config.loadFile (.ofString "/c") (read (.ofString "/c")) = .ok file ∧
      arguments.configuration read = .ok file ∧ ¬ SwitchHeard arguments file := by
  intro text arguments read file
  have loaded : Config.loadFile (.ofString "/c") (read (.ofString "/c")) = .ok file := by
    decide +kernel
  have named : arguments.config = some "/c" := rfl
  have accepted : arguments.configuration read = .ok file := by
    rw [configuration_of_loaded named, loaded]
    decide +kernel
  refine ⟨loaded, accepted, ?_⟩
  intro heard
  exact heard rfl ⟨"/run/nvidia-dcgm.sock", 0⟩ rfl rfl

end CommandLine.Arguments

end HostEngine
