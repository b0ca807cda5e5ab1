import HostEngine.Config.Validation
import HostEngine.Proofs.Session.FirstFailure
import HostEngine.Proofs.Target
/-!
# A configured address reaches the library

What a configuration says in its standalone section becomes two arguments, an address and a decimal
flag, which are checked and read again at the start. For a configuration that was found valid this
always succeeds, and the connect call gets the address and the flag as they were configured
(`standalone_address_passed`).
-/
set_option autoImplicit false

namespace HostEngine

namespace Exchange

def loadName? : Exchange → Option String
  | ⟨.load name, _⟩ => some name
  | _ => none

def connect? : Exchange → Option (Octets × Native.ConnectParams)
  | ⟨.call _ (.connect address params), _⟩ => some (address, params)
  | _ => none

end Exchange

namespace Config

variable {config : Config}

theorem validateSection_of_validate (valid : config.validate = .ok ()) :
    config.validateSection = .ok () := by
  unfold validate at valid
  split at valid
  · cases valid
  · split at valid
    · cases valid
    · exact valid

theorem exists_standalone_of_validate (mode : config.mode = .standalone)
    (valid : config.validate = .ok ()) :
    ∃ standalone, config.standalone = some standalone ∧ '\x00' ∉ standalone.address.toList := by
  have sound := validateSection_of_validate valid
  unfold validateSection at sound
  cases given : config.standalone with
  | none =>
    rw [mode, given] at sound
    cases sound
  | some standalone =>
    simp only [mode, given, validateStandalone] at sound
    refine ⟨standalone, rfl, ?_⟩
    split at sound
    · cases sound
    · split at sound
      · cases sound
      · rename_i free
        exact fun held => free (List.contains_iff_mem.mpr held)

theorem ofArgs_startupArgs (mode : config.mode = .standalone) (valid : config.validate = .ok ()) :
    ∃ standalone target, config.standalone = some standalone ∧
      Target.ofArgs config.startupArgs = .ok target ∧
      target.octets = .ofString standalone.address ∧ target.flag = standalone.flag := by
  obtain ⟨standalone, given, nulFree⟩ := exists_standalone_of_validate mode valid
  have names : Target.Names [standalone.address, decimal standalone.flag.toNat] standalone.address
      standalone.flag.toNat :=
    ⟨_, [], rfl, isUnsigned_decimal _, standalone.flag.toNat_lt, nulFree⟩
  obtain ⟨target, parsed, octets, flag⟩ := names.exists_target
  refine ⟨standalone, target, given, ?_, octets, UInt32.toNat_inj.mp flag⟩
  rw [startupArgs, mode, given]
  exact parsed

end Config

/-! ### The start -/

namespace Session

open Procedure

structure AddressPassed (library : String) (standalone : StandaloneConfig)
    (done : List Exchange) (result : Except Failure Session) : Prop where
  accepted : ∀ failure, result = .error failure → failure.kind ≠ .arguments
  loads : done.filterMap Exchange.loadName? = [library]
  /-- If that is loaded and initialized, one connect call is made, with the octets of the configured
  address, the configured flag, no persistence and the library's timeout. -/
  connects : (∃ loaded, ⟨.load library, .ok loaded⟩ ∈ done) →
    (∃ loaded, .called loaded .init (.ok ()) ∈ done) →
    done.filterMap Exchange.connect? = [(.ofString standalone.address,
      ⟨Native.versionWord Native.connectParamsSize 2, 0, 0, standalone.flag⟩)]

variable {library : Native.Library} {target : Target} {done : List Exchange}

/-- Opening a connection asks for no library, and makes one connect call once the library is
initialized. -/
theorem Opening.filterMap_connect {opened : Except Failure Native.Handle}
    (opening : Opening library (connectExchange library target) .connect done opened) :
    done.filterMap Exchange.loadName? = [] ∧
      ((∃ loaded, .called loaded .init (.ok ()) ∈ done) →
        done.filterMap Exchange.connect? = [(target.octets, .ofFlag target.flag)]) := by
  cases opening with
  | uninitialized failure =>
    refine ⟨rfl, ?_⟩
    rintro ⟨loaded, initialized⟩
    simp at initialized
  | unopened failure shutdown => exact ⟨rfl, fun _ => rfl⟩
  | opened handle => exact ⟨rfl, fun _ => rfl⟩

theorem Opening.kind_ne_arguments {ask : Except Native.Failure Native.Handle → Exchange}
    {step : NativeStep} {failure : Failure}
    (opening : Opening library ask step done (.error failure)) : failure.kind ≠ .arguments := by
  cases opening with
  | uninitialized native => simp [Failure.kind]
  | unopened native shutdown => simp [Failure.kind]

theorem Following.opening_of_standalone {options : ChildOptions}
    {connected : Except Failure Connection}
    (following : Following library options (.standalone target) done connected) :
    ∃ opened, Opening library (connectExchange library target) .connect done opened ∧
      connected = opened.map fun handle => .standalone ⟨handle, target⟩ := by
  cases following with
  | standalone _ _ opened opening => exact ⟨opened, opening, rfl⟩

theorem Startup.addressPassed {options : Options} {args : List String}
    {standalone : StandaloneConfig} {result : Except Failure Session}
    (parsed : Target.ofArgs args = .ok target)
    (octets : target.octets = .ofString standalone.address)
    (flag : target.flag = standalone.flag)
    (startup : Startup options .standalone args done result) :
    AddressPassed options.library standalone done result := by
  have plan_eq {plan : Plan} (planned : Plan.make .standalone args = .ok plan) :
      plan = .standalone target := by
    rw [Plan.make, parsed] at planned
    cases planned
    rfl
  have sent : (target.octets, Native.ConnectParams.ofFlag target.flag) =
      (.ofString standalone.address,
        ⟨Native.versionWord Native.connectParamsSize 2, 0, 0, standalone.flag⟩) := by
    rw [octets, flag]
    rfl
  cases startup with
  | refused failure unplanned =>
    rw [Plan.make, parsed] at unplanned
    cases unplanned
  | unloaded plan reason planned =>
    refine ⟨?_, rfl, ?_⟩
    · rintro failure ⟨⟩
      simp [Failure.kind]
    · rintro ⟨loaded, loads⟩
      simp at loads
  | failed plan library rest failure unload planned following =>
    obtain rfl := plan_eq planned
    obtain ⟨opened, opening, failed⟩ := following.opening_of_standalone
    obtain ⟨loadsNothing, connectsOnce⟩ := opening.filterMap_connect
    refine ⟨?_, ?_, ?_⟩
    · rintro other ⟨⟩
      cases opened with
      | ok handle => cases failed
      | error first =>
        cases failed
        exact opening.kind_ne_arguments
    · rw [List.filterMap_append, List.filterMap_cons, loadsNothing]
      rfl
    · rintro - ⟨loaded, initialized⟩
      have inside : .called loaded .init (.ok ()) ∈ rest := by simpa using initialized
      rw [List.filterMap_append, List.filterMap_cons, connectsOnce ⟨loaded, inside⟩, sent]
      rfl
  | started plan library rest connection planned following =>
    obtain rfl := plan_eq planned
    obtain ⟨opened, opening, -⟩ := following.opening_of_standalone
    obtain ⟨loadsNothing, connectsOnce⟩ := opening.filterMap_connect
    refine ⟨?_, ?_, ?_⟩
    · rintro failure ⟨⟩
    · rw [List.filterMap_cons, loadsNothing]
      rfl
    · rintro - ⟨loaded, initialized⟩
      have inside : .called loaded .init (.ok ()) ∈ rest := by simpa using initialized
      rw [List.filterMap_cons, connectsOnce ⟨loaded, inside⟩, sent]
      rfl

/-- A configuration for the standalone mode that is valid gives arguments that are read as a target
with its address and its flag, and every start with them passes these on to the library. -/
theorem standalone_address_passed {config : Config} (mode : config.mode = .standalone)
    (valid : config.validate = .ok ()) :
    ∃ standalone target, config.standalone = some standalone ∧
      Target.ofArgs config.startupArgs = .ok target ∧
      target.address = standalone.address ∧ target.flag = standalone.flag ∧
      ∀ trace result,
        Yields (start config.options config.mode config.startupArgs) trace result →
        AddressPassed config.library standalone (effects trace) result := by
  obtain ⟨standalone, target, given, parsed, octets, flag⟩ :=
    Config.ofArgs_startupArgs mode valid
  refine ⟨standalone, target, given, parsed, Target.address_eq octets, flag, ?_⟩
  intro trace result started
  have startup := performs_start_iff.mp started.performs
  rw [mode] at startup
  exact startup.addressPassed parsed octets flag

/-- An address that is not ASCII and the greatest flag are passed on in a start that succeeds. -/
theorem standalone_address_passed_of_socket :
    let standalone : StandaloneConfig := ⟨"/run/\u00E9", 4294967295⟩
    let config : Config := { Config.ofMode .standalone with standalone := some standalone }
    config.mode = .standalone ∧ config.validate = .ok () ∧
      ∃ trace session,
        Yields (start config.options config.mode config.startupArgs) trace (.ok session) ∧
        (effects trace).filterMap Exchange.connect? =
          [(.ofString "/run/\u00E9", ⟨33554448, 0, 0, 4294967295⟩)] := by
  intro standalone config
  have valid : config.validate = .ok () := by decide +kernel
  obtain ⟨_, target, ⟨⟩, parsed, -, -, passed⟩ := standalone_address_passed rfl valid
  have startup : Startup config.options .standalone config.startupArgs
      (⟨.load config.library, .ok ⟨0, config.library⟩⟩ :: _) (.ok ⟨_, .standalone ⟨⟨7⟩, target⟩⟩) :=
    .started (.standalone target) _ _ _ (congrArg (Except.map Plan.standalone) parsed)
      (.standalone target _ (.ok ⟨7⟩) (.opened ⟨7⟩))
  obtain ⟨trace, started, did⟩ := performs_start_iff.mpr startup
  refine ⟨rfl, valid, trace, _, started, ?_⟩
  have passes := passed trace _ started
  rw [did] at passes ⊢
  exact passes.connects ⟨_, List.mem_cons_self⟩ ⟨_, List.mem_cons_of_mem _ List.mem_cons_self⟩

end Session

end HostEngine
