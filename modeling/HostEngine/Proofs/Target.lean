import Mathlib.Algebra.Group.Nat.Defs
import HostEngine.Target
import HostEngine.Proofs.Text.Digits
import HostEngine.Proofs.Text.Octets
/-!
# Arguments that name a target

The first argument is an address without NUL, the second an unsigned decimal below 2^32; nothing else
is read as a target, and what is refused is refused for the first check that fails
(`arguments_read_exactly`).
-/
set_option autoImplicit false

namespace HostEngine.Target

variable {octets : Octets} {address text : String} {flag : UInt32} {target : Target}
  {failure : Failure} {fault : NumberFault} {args : List String}

/-! ### Addresses -/

theorem ofOctets?_eq_some_iff :
    ofOctets? octets flag = some target ↔ target.octets = octets ∧ target.flag = flag := by
  unfold ofOctets?
  constructor
  · intro made
    split at made
    · cases made
      exact ⟨rfl, rfl⟩
    · cases made
  · rintro ⟨rfl, rfl⟩
    rw [dif_pos target.nulFree]

theorem ofOctets?_eq_none_iff : ofOctets? octets flag = none ↔ octets.hasNul = true := by
  unfold ofOctets?
  split
  · rename_i free
    simp [free]
  · rename_i held
    simpa using held

theorem ofAddress_eq_ok_iff :
    ofAddress address flag = .ok target ↔
      target.octets = .ofString address ∧ target.flag = flag := by
  rw [← ofOctets?_eq_some_iff, ofAddress]
  cases ofOctets? (.ofString address) flag with
  | none => exact ⟨nofun, nofun⟩
  | some made => simp

theorem ofAddress_eq_error_iff :
    ofAddress address flag = .error failure ↔
      '\x00' ∈ address.toList ∧
        failure = .arguments ("address contains a NUL byte: " ++ Quoted.text address) := by
  rw [← Octets.hasNul_ofString_iff, ← @ofOctets?_eq_none_iff _ flag, ofAddress]
  cases ofOctets? (.ofString address) flag with
  | none => simp [eq_comm]
  | some made => simp

theorem ofAddress_eq_ok (nulFree : '\x00' ∉ address.toList) (flag : UInt32) :
    ∃ target, ofAddress address flag = .ok target ∧ target.octets = .ofString address ∧
      target.flag = flag := by
  have free : (Octets.ofString address).hasNul = false := by
    rw [Bool.eq_false_iff, ne_eq, Octets.hasNul_ofString_iff]
    exact nulFree
  exact ⟨⟨.ofString address, flag, free⟩, ofAddress_eq_ok_iff.mpr ⟨rfl, rfl⟩, rfl, rfl⟩

theorem not_mem_nul (octets : target.octets = .ofString address) : '\x00' ∉ address.toList := by
  rw [← Octets.hasNul_ofString_iff, ← octets, target.nulFree]
  exact nofun

theorem address_eq (octets : target.octets = .ofString address) : target.address = address := by
  rw [Target.address, octets, Octets.text?_ofString, Option.getD_some]

theorem ofSocketPath_eq_ok_iff {path : Octets} :
    ofSocketPath path = .ok target ↔ target.octets = path ∧ target.flag = 1 := by
  rw [← ofOctets?_eq_some_iff, ofSocketPath]
  cases ofOctets? path 1 with
  | none => exact ⟨nofun, nofun⟩
  | some made => simp

theorem ofSocketPath_eq_error_iff {path : Octets} :
    ofSocketPath path = .error failure ↔
      path.hasNul = true ∧
        failure = .arguments ("socket path contains a NUL byte: " ++ path.shown) := by
  rw [← @ofOctets?_eq_none_iff _ 1, ofSocketPath]
  cases ofOctets? path 1 with
  | none => simp [eq_comm]
  | some made => simp

theorem ofSocketPath_eq_ok {path : Octets} (nulFree : path.hasNul = false) :
    ofSocketPath path = .ok ⟨path, 1, nulFree⟩ :=
  ofSocketPath_eq_ok_iff.mpr ⟨rfl, rfl⟩

/-! ### Flags -/

theorem readFlag_eq_ok_iff : readFlag text = .ok flag ↔ IsUnsigned text flag.toNat := by
  have positive : 0 < UInt32.size := by decide
  constructor
  · intro accepted
    unfold readFlag at accepted
    cases given : readUnsigned UInt32.size text with
    | error fault =>
      rw [given] at accepted
      cases accepted
    | ok n =>
      rw [given] at accepted
      cases accepted
      obtain ⟨reads, below⟩ := (readUnsigned_eq_ok_iff positive).mp given
      rw [UInt32.toNat_ofNat_of_lt' below]
      exact reads
  · intro reads
    have read : readUnsigned UInt32.size text = .ok flag.toNat :=
      (readUnsigned_eq_ok_iff positive).mpr ⟨reads, flag.toNat_lt_size⟩
    rw [readFlag, read, Except.map, UInt32.ofNat_toNat]

theorem readFlag_eq_error_iff : readFlag text = .error fault ↔ Misread (2 ^ 32) text fault := by
  rw [← readUnsigned_eq_error_iff (by decide), readFlag, UInt32.size]
  cases readUnsigned (2 ^ 32) text with
  | ok n => exact ⟨nofun, nofun⟩
  | error other => simp [Except.map]

/-! ### Arguments -/

/-- Arguments that name a target: an address without NUL and a flag below 2^32. -/
def Names (args : List String) (address : String) (n : Nat) : Prop :=
  ∃ flag more, args = address :: flag :: more ∧ IsUnsigned flag n ∧ n < 2 ^ 32 ∧
    '\x00' ∉ address.toList

/-- What is said of arguments that name none: the words of the first check that fails. -/
inductive Refused : List String → String → Prop
  | few {args : List String} (few : args.length < 2) : Refused args "missing address/port"
  | flag {address flag : String} {more : List String} {fault : NumberFault}
      (misread : Misread (2 ^ 32) flag fault) :
    Refused (address :: flag :: more) ("error parsing " ++ flag ++ ": " ++ fault.message)
  | address {address flag : String} {more : List String} {n : Nat}
      (reads : IsUnsigned flag n) (below : n < 2 ^ 32) (nul : '\x00' ∈ address.toList) :
    Refused (address :: flag :: more) ("address contains a NUL byte: " ++ Quoted.text address)

theorem ofArgs_take (args : List String) : ofArgs (args.take 2) = ofArgs args := by
  cases args with
  | nil => rfl
  | cons address rest =>
    cases rest with
    | nil => rfl
    | cons flag more => rfl

theorem ofArgs_of_readFlag {given : String} (reads : readFlag given = .ok flag)
    (more : List String) : ofArgs (address :: given :: more) = ofAddress address flag := by
  rw [ofArgs, reads]

theorem ofArgs_eq_ok_iff :
    ofArgs args = .ok target ↔
      ∃ address given more, args = address :: given :: more ∧
        IsUnsigned given target.flag.toNat ∧ target.octets = .ofString address := by
  constructor
  · intro accepted
    match args with
    | [] => cases accepted
    | [_] => cases accepted
    | address :: given :: more =>
      cases reads : readFlag given with
      | error fault =>
        rw [ofArgs, reads] at accepted
        cases accepted
      | ok flag =>
        rw [ofArgs_of_readFlag reads] at accepted
        obtain ⟨octets, rfl⟩ := ofAddress_eq_ok_iff.mp accepted
        exact ⟨address, given, more, rfl, readFlag_eq_ok_iff.mp reads, octets⟩
  · rintro ⟨address, given, more, rfl, reads, octets⟩
    rw [ofArgs_of_readFlag (readFlag_eq_ok_iff.mpr reads)]
    exact ofAddress_eq_ok_iff.mpr ⟨octets, rfl⟩

theorem Names.exists_target {n : Nat} (names : Names args address n) :
    ∃ target, ofArgs args = .ok target ∧ target.octets = .ofString address ∧
      target.flag.toNat = n := by
  obtain ⟨given, more, rfl, reads, below, nulFree⟩ := names
  have value : (UInt32.ofNat n).toNat = n := UInt32.toNat_ofNat_of_lt' below
  obtain ⟨target, made, octets, flag⟩ := ofAddress_eq_ok nulFree (.ofNat n)
  refine ⟨target, ?_, octets, flag ▸ value⟩
  rw [ofArgs_of_readFlag (readFlag_eq_ok_iff.mpr (value.symm ▸ reads)), made]

theorem ofArgs_eq_error_iff :
    ofArgs args = .error failure ↔ ∃ message, failure = .arguments message ∧ Refused args message := by
  constructor
  · intro refused
    match args with
    | [] =>
      cases refused
      exact ⟨_, rfl, .few (by simp)⟩
    | [_] =>
      cases refused
      exact ⟨_, rfl, .few (by simp)⟩
    | address :: given :: more =>
      cases reads : readFlag given with
      | error fault =>
        rw [ofArgs, reads] at refused
        cases refused
        exact ⟨_, rfl, .flag (readFlag_eq_error_iff.mp reads)⟩
      | ok flag =>
        rw [ofArgs_of_readFlag reads] at refused
        obtain ⟨nul, rfl⟩ := ofAddress_eq_error_iff.mp refused
        exact ⟨_, rfl, .address (readFlag_eq_ok_iff.mp reads) flag.toNat_lt nul⟩
  · rintro ⟨message, rfl, refused⟩
    cases refused with
    | few few =>
      match args with
      | [] => rfl
      | [_] => rfl
      | _ :: _ :: _ =>
        simp only [List.length_cons] at few
        omega
    | flag misread => rw [ofArgs, readFlag_eq_error_iff.mpr misread]
    | @address address given more n reads below nul =>
      have value : (UInt32.ofNat n).toNat = n := UInt32.toNat_ofNat_of_lt' below
      rw [ofArgs_of_readFlag (readFlag_eq_ok_iff.mpr (value.symm ▸ reads))]
      exact ofAddress_eq_error_iff.mpr ⟨nul, rfl⟩

/-- Arguments are read as a target if and only if they name one, which then has their address and
their number. Else the first check that fails is reported, and nothing behind the second argument
counts. -/
theorem arguments_read_exactly (args : List String) :
    ((∃ target, ofArgs args = .ok target) ↔ ∃ address n, Names args address n) ∧
      (∀ target, ofArgs args = .ok target → Names args target.address target.flag.toNat) ∧
      (∀ address n, Names args address n → ∃ target, ofArgs args = .ok target ∧
        target.octets = .ofString address ∧ target.address = address ∧ target.flag.toNat = n) ∧
      (∀ failure, ofArgs args = .error failure ↔
        ∃ message, failure = .arguments message ∧ Refused args message) ∧
      ofArgs args = ofArgs (args.take 2) := by
  have named : ∀ target, ofArgs args = .ok target →
      Names args target.address target.flag.toNat := by
    intro target accepted
    obtain ⟨address, given, more, rfl, reads, octets⟩ := ofArgs_eq_ok_iff.mp accepted
    rw [address_eq octets]
    exact ⟨given, more, rfl, reads, target.flag.toNat_lt, not_mem_nul octets⟩
  refine ⟨⟨?_, ?_⟩, named, ?_, ?_, (ofArgs_take args).symm⟩
  · rintro ⟨target, accepted⟩
    exact ⟨_, _, named target accepted⟩
  · rintro ⟨address, n, names⟩
    obtain ⟨target, accepted, -⟩ := names.exists_target
    exact ⟨target, accepted⟩
  · intro address n names
    obtain ⟨target, accepted, octets, value⟩ := names.exists_target
    exact ⟨target, accepted, octets, address_eq octets, value⟩
  · intro failure
    exact ofArgs_eq_error_iff

/-- A third argument is not looked at. Where both the flag and the address are bad, it is the flag that
is reported. -/
theorem arguments_read_exactly_of_socket :
    let args := ["/run/\u00E9", "+007", "ignored"]
    let bad := ["local\x00host", "4294967296x"]
    Names args "/run/\u00E9" 7 ∧
      (∃ target, ofArgs args = .ok target ∧ target.octets = .ofString "/run/\u00E9" ∧
        target.address = "/run/\u00E9" ∧ target.flag.toNat = 7) ∧
      Refused bad "error parsing 4294967296x: number too large to fit in target type" ∧
      ofArgs bad = .error (.arguments
        "error parsing 4294967296x: number too large to fit in target type") := by
  intro args bad
  obtain ⟨-, -, named, -, -⟩ := arguments_read_exactly args
  obtain ⟨-, -, -, refused, -⟩ := arguments_read_exactly bad
  have names : Names args "/run/\u00E9" 7 :=
    ⟨"+007", ["ignored"], rfl,
      ⟨['0', '0', '7'], .inr (by decide), by decide, List.all_eq_true.mp (by decide), by decide⟩,
      by decide, by decide⟩
  have exceeds : Exceeds (2 ^ 32) "4294967296x" :=
    ⟨"4294967296".toList, ['x'], .inl (by decide), List.all_eq_true.mp (by decide), by decide⟩
  have fails : Refused bad _ := .flag (.tooLarge exceeds)
  exact ⟨names, named _ 7 names, fails, (refused _).mpr ⟨_, rfl, fails⟩⟩

end HostEngine.Target
