import Mathlib.Algebra.Group.Nat.Defs
import HostEngine.Native.Connect
/-!
# Size and version in one word

A version word holds the size in its low 24 bits and the version in its top eight. A size that needs
more than 24 bits runs into the version, by a bitwise or; what needs more than the word is lost. Below
these bounds both are read back from the word (`versionWord_keeps_apart`).
-/
set_option autoImplicit false

namespace HostEngine.Native

/-- The low 24 bits of a version word. -/
def wordSize (word : UInt32) : Nat := word.toNat % 2 ^ 24

/-- The top eight bits of a version word. -/
def wordVersion (word : UInt32) : Nat := word.toNat / 2 ^ 24

/-- The size and the version each fit into their part of the word. -/
structure FitsWord (size : UInt64) (version : UInt32) : Prop where
  size : size.toNat < 2 ^ 24
  version : version.toNat < 2 ^ 8

variable {size otherSize : UInt64} {version otherVersion : UInt32}

/-! ### Bits -/

theorem toNat_versionWord (size : UInt64) (version : UInt32) :
    (versionWord size version).toNat =
      size.toNat % 2 ^ 32 ||| version.toNat <<< 24 % 2 ^ 32 := by
  have shift : (24 : UInt32).toNat % 32 = 24 := rfl
  rw [versionWord, UInt32.toNat_or, UInt64.toNat_toUInt32, UInt32.toNat_shiftLeft, shift]

theorem testBit_versionWord (size : UInt64) (version : UInt32) (i : Nat) :
    (versionWord size version).toNat.testBit i =
      (decide (i < 32) &&
        (size.toNat.testBit i || (decide (24 ≤ i) && version.toNat.testBit (i - 24)))) := by
  rw [toNat_versionWord, Nat.testBit_or, Nat.testBit_mod_two_pow, Nat.testBit_mod_two_pow,
    Nat.testBit_shiftLeft, Bool.and_or_distrib_left]

/-! ### The two parts -/

theorem wordSize_versionWord (size : UInt64) (version : UInt32) :
    wordSize (versionWord size version) = size.toNat % 2 ^ 24 := by
  apply Nat.eq_of_testBit_eq
  intro i
  rw [wordSize, Nat.testBit_mod_two_pow, Nat.testBit_mod_two_pow, testBit_versionWord]
  by_cases low : i < 24
  · have inside : i < 32 := by omega
    have below : ¬ 24 ≤ i := by omega
    simp [low, inside, below]
  · simp [low]

theorem wordVersion_versionWord (size : UInt64) (version : UInt32) :
    wordVersion (versionWord size version) =
      version.toNat % 2 ^ 8 ||| size.toNat / 2 ^ 24 % 2 ^ 8 := by
  apply Nat.eq_of_testBit_eq
  intro i
  rw [wordVersion, Nat.testBit_div_two_pow, testBit_versionWord, Nat.testBit_or,
    Nat.testBit_mod_two_pow, Nat.testBit_mod_two_pow, Nat.testBit_div_two_pow]
  by_cases low : i < 8
  · have inside : i + 24 < 32 := by omega
    simp [low, inside, Bool.or_comm]
  · have outside : ¬ i + 24 < 32 := by omega
    simp [low, outside]

theorem word_ext {word other : UInt32} (size : wordSize word = wordSize other)
    (version : wordVersion word = wordVersion other) : word = other := by
  apply UInt32.toNat_inj.mp
  unfold wordSize at size
  unfold wordVersion at version
  omega

/-! ### Within the bounds and beyond -/

theorem FitsWord.wordSize_eq (fits : FitsWord size version) :
    wordSize (versionWord size version) = size.toNat := by
  rw [wordSize_versionWord, Nat.mod_eq_of_lt fits.size]

theorem FitsWord.wordVersion_eq (fits : FitsWord size version) :
    wordVersion (versionWord size version) = version.toNat := by
  have clear : size.toNat / 2 ^ 24 = 0 := Nat.div_eq_of_lt fits.size
  rw [wordVersion_versionWord, clear, Nat.zero_mod, Nat.or_zero, Nat.mod_eq_of_lt fits.version]

theorem FitsWord.inj (fits : FitsWord size version) (otherFits : FitsWord otherSize otherVersion)
    (same : versionWord size version = versionWord otherSize otherVersion) :
    size = otherSize ∧ version = otherVersion := by
  constructor
  · apply UInt64.toNat_inj.mp
    rw [← fits.wordSize_eq, same, otherFits.wordSize_eq]
  · apply UInt32.toNat_inj.mp
    rw [← fits.wordVersion_eq, same, otherFits.wordVersion_eq]

theorem versionWord_congr (sizes : size.toNat % 2 ^ 32 = otherSize.toNat % 2 ^ 32)
    (versions : version.toNat % 2 ^ 8 = otherVersion.toNat % 2 ^ 8) :
    versionWord size version = versionWord otherSize otherVersion := by
  apply word_ext
  · rw [wordSize_versionWord, wordSize_versionWord]
    omega
  · have high : size.toNat / 2 ^ 24 % 2 ^ 8 = otherSize.toNat / 2 ^ 24 % 2 ^ 8 := by omega
    rw [wordVersion_versionWord, wordVersion_versionWord, versions, high]

/-- The low 24 bits of a version word are those of the size. The top eight are those of the version,
joined with bits 24 to 31 of the size; so within the bounds both parts are read back, and no other
size and version give the same word. Bits beyond the word make no difference. -/
theorem versionWord_keeps_apart :
    (∀ (size : UInt64) (version : UInt32),
      wordSize (versionWord size version) = size.toNat % 2 ^ 24 ∧
      wordVersion (versionWord size version) =
        version.toNat % 2 ^ 8 ||| size.toNat / 2 ^ 24 % 2 ^ 8) ∧
    (∀ size version, FitsWord size version →
      wordSize (versionWord size version) = size.toNat ∧
      wordVersion (versionWord size version) = version.toNat) ∧
    (∀ size version otherSize otherVersion,
      FitsWord size version → FitsWord otherSize otherVersion →
      versionWord size version = versionWord otherSize otherVersion →
      size = otherSize ∧ version = otherVersion) ∧
    ∀ (size otherSize : UInt64) (version otherVersion : UInt32),
      size.toNat % 2 ^ 32 = otherSize.toNat % 2 ^ 32 →
      version.toNat % 2 ^ 8 = otherVersion.toNat % 2 ^ 8 →
      versionWord size version = versionWord otherSize otherVersion := by
  refine ⟨?_, ?_, ?_, ?_⟩
  · intro size version
    exact ⟨wordSize_versionWord size version, wordVersion_versionWord size version⟩
  · intro size version fits
    exact ⟨fits.wordSize_eq, fits.wordVersion_eq⟩
  · intro size version otherSize otherVersion fits otherFits same
    exact fits.inj otherFits same
  · intro size otherSize version otherVersion sizes versions
    exact versionWord_congr sizes versions

/-- The connect parameters fit. A size with bit 63 set as well and a version of nine bits give their
word again. -/
theorem versionWord_keeps_apart_of_connect :
    FitsWord connectParamsSize 2 ∧ wordSize connectParamsVersion = 16 ∧
      wordVersion connectParamsVersion = 2 ∧
      (∀ size version, FitsWord size version → versionWord size version = connectParamsVersion →
        size = 16 ∧ version = 2) ∧
      versionWord 0x8000000000000010 258 = connectParamsVersion := by
  obtain ⟨-, readBack, injective, lost⟩ := versionWord_keeps_apart
  have fits : FitsWord connectParamsSize 2 := ⟨by decide, by decide⟩
  obtain ⟨size, version⟩ := readBack _ _ fits
  refine ⟨fits, size, version, ?_, lost _ _ _ _ (by decide) (by decide)⟩
  intro size version other same
  exact injective _ _ _ _ other fits same

end HostEngine.Native
