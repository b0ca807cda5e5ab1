import HostEngine.Yaml.Meaning
/-!
# Decimals

Which texts a reader of arguments takes for numbers below a bound, and what it says of the others
(`readUnsigned_eq_ok_iff`, `readUnsigned_eq_error_iff`). A number that is written in decimal is among
them as itself, and the reader of plain scalars reads it back too.
-/
set_option autoImplicit false

namespace HostEngine

variable {bound value n : Nat} {cs : List Char}

@[simp] theorem toList_decimal (n : Nat) : (decimal n).toList = Nat.toDigits 10 n :=
  String.toList_ofList

theorem isDigit_of_mem_digits {c : Char} (member : c ∈ Nat.toDigits 10 n) : c.isDigit = true :=
  Nat.isDigit_of_mem_toDigits (by omega) (by omega) member

theorem le_ofDigitChars (cs : List Char) (value : Nat) : value ≤ Nat.ofDigitChars 10 cs value := by
  rw [Nat.ofDigitChars_eq_ofDigitChars_zero]
  have grows : value ≤ 10 ^ cs.length * value :=
    Nat.le_mul_of_pos_left value (Nat.pow_pos (by omega))
  omega

/-! ### Arguments -/

/-- The text is the body, or a plus sign and the body. -/
def Signed (text : String) (body : List Char) : Prop :=
  text.toList = body ∨ text.toList = '+' :: body

/-- An unsigned decimal of a number: an optional plus sign and one or more ASCII digits, which may begin
with zeros. -/
def IsUnsigned (text : String) (n : Nat) : Prop :=
  ∃ digits, Signed text digits ∧ digits ≠ [] ∧ (∀ c ∈ digits, c.isDigit = true) ∧
    Nat.ofDigitChars 10 digits 0 = n

/-- Behind an optional plus sign, the text begins with the digits of a number beyond the bound. -/
def Exceeds (bound : Nat) (text : String) : Prop :=
  ∃ digits after, Signed text (digits ++ after) ∧ (∀ c ∈ digits, c.isDigit = true) ∧
    bound ≤ Nat.ofDigitChars 10 digits 0

/-- Why a text is not read as a number below the bound. Digits beyond the bound are reported whatever
follows them. -/
inductive Misread (bound : Nat) (text : String) : NumberFault → Prop
  | noDigits (empty : text = "") : Misread bound text .noDigits
  | tooLarge (exceeds : Exceeds bound text) : Misread bound text .tooLarge
  | badDigit (filled : text ≠ "") (within : ¬ Exceeds bound text)
      (other : ∀ n, ¬ IsUnsigned text n) : Misread bound text .badDigit

theorem readDigits_cons (c : Char) (rest : List Char) :
    readDigits bound value (c :: rest) =
      if c.isDigit = true then
        if 10 * value + (c.toNat - '0'.toNat) < bound then
          readDigits bound (10 * value + (c.toNat - '0'.toNat)) rest
        else .error .tooLarge
      else .error .badDigit := by
  rw [readDigits, digit?, Nat.mul_comm 10 value]
  by_cases isDigit : c.isDigit = true
  · rw [if_pos isDigit, if_pos isDigit]
  · rw [if_neg isDigit, if_neg isDigit]

theorem readDigits_eq_ok_iff (below : value < bound) :
    readDigits bound value cs = .ok n ↔
      (∀ c ∈ cs, c.isDigit = true) ∧ Nat.ofDigitChars 10 cs value = n ∧ n < bound := by
  induction cs generalizing value with
  | nil =>
    constructor
    · rintro ⟨⟩
      exact ⟨nofun, rfl, below⟩
    · rintro ⟨-, rfl, -⟩
      rfl
  | cons c rest ih =>
    rw [readDigits_cons, Nat.ofDigitChars_cons, List.forall_mem_cons]
    by_cases isDigit : c.isDigit = true
    · by_cases small : 10 * value + (c.toNat - '0'.toNat) < bound
      · rw [if_pos isDigit, if_pos small, ih small, and_iff_right isDigit]
      · rw [if_pos isDigit, if_neg small]
        refine ⟨nofun, ?_⟩
        rintro ⟨-, rfl, fits⟩
        exact absurd (Nat.lt_of_le_of_lt (le_ofDigitChars rest _) fits) small
    · rw [if_neg isDigit]
      exact ⟨nofun, fun given => absurd given.1.1 isDigit⟩

theorem readDigits_eq_tooLarge_iff (below : value < bound) :
    readDigits bound value cs = .error .tooLarge ↔
      ∃ digits after, cs = digits ++ after ∧ (∀ c ∈ digits, c.isDigit = true) ∧
        bound ≤ Nat.ofDigitChars 10 digits value := by
  induction cs generalizing value with
  | nil =>
    refine ⟨nofun, ?_⟩
    rintro ⟨digits, after, split, -, beyond⟩
    obtain ⟨rfl, rfl⟩ := List.append_eq_nil_iff.mp split.symm
    exact absurd below (Nat.not_lt.mpr beyond)
  | cons c rest ih =>
    rw [readDigits_cons]
    constructor
    · intro fails
      split at fails
      · rename_i isDigit
        split at fails
        · rename_i small
          obtain ⟨digits, after, rfl, isDigits, beyond⟩ := (ih small).mp fails
          refine ⟨c :: digits, after, rfl, List.forall_mem_cons.mpr ⟨isDigit, isDigits⟩, ?_⟩
          rw [Nat.ofDigitChars_cons]
          exact beyond
        -- The digit that passes the bound ends the reading, whatever follows it.
        · rename_i large
          exact ⟨[c], rest, rfl, List.forall_mem_singleton.mpr isDigit, Nat.not_lt.mp large⟩
      · cases fails
    · rintro ⟨digits, after, split, isDigits, beyond⟩
      cases digits with
      | nil => exact absurd below (Nat.not_lt.mpr beyond)
      | cons d digits =>
        obtain ⟨rfl, rfl⟩ := List.cons.inj split
        obtain ⟨isDigit, isDigits⟩ := List.forall_mem_cons.mp isDigits
        rw [Nat.ofDigitChars_cons] at beyond
        rw [if_pos isDigit]
        by_cases small : 10 * value + (c.toNat - '0'.toNat) < bound
        · rw [if_pos small, ih small]
          exact ⟨digits, after, rfl, isDigits, beyond⟩
        · rw [if_neg small]

theorem readDigits_ne_noDigits : readDigits bound value cs ≠ .error .noDigits := by
  induction cs generalizing value with
  | nil => exact nofun
  | cons c rest ih =>
    rw [readDigits_cons]
    split
    · split
      · exact ih
      · exact nofun
    · exact nofun

theorem readUnsigned_cases (bound : Nat) (text : String) :
    (text = "" ∧ readUnsigned bound text = .error .noDigits) ∨
      (text = "+" ∧ readUnsigned bound text = .error .badDigit) ∨
      ∃ c rest, Signed text (c :: rest) ∧ readUnsigned bound text = readDigits bound 0 (c :: rest) := by
  unfold readUnsigned
  split
  · rename_i empty
    exact .inl ⟨String.toList_inj.mp empty, rfl⟩
  · rename_i sign
    exact .inr (.inl ⟨String.toList_inj.mp sign, rfl⟩)
  · rename_i c rest shape
    exact .inr (.inr ⟨c, rest, .inr shape, rfl⟩)
  · rename_i empty _ _
    cases shape : text.toList with
    | nil => exact absurd shape empty
    | cons c rest => exact .inr (.inr ⟨c, rest, .inl shape, rfl⟩)

theorem Signed.readUnsigned_eq {text : String} {c : Char} {rest : List Char}
    (signed : Signed text (c :: rest)) (isDigit : c.isDigit = true) :
    readUnsigned bound text = readDigits bound 0 (c :: rest) := by
  have first : c ≠ '+' := by
    rintro rfl
    exact absurd isDigit (by decide)
  unfold readUnsigned
  rcases signed with shape | shape
  · simp [shape, first]
  · simp [shape]

theorem readUnsigned_eq_ok_iff (positive : 0 < bound) {text : String} :
    readUnsigned bound text = .ok n ↔ IsUnsigned text n ∧ n < bound := by
  constructor
  · intro read
    rcases readUnsigned_cases bound text with ⟨-, fails⟩ | ⟨-, fails⟩ | ⟨c, rest, signed, reads⟩
    · exact nomatch read.symm.trans fails
    · exact nomatch read.symm.trans fails
    · obtain ⟨digits, value, below⟩ := (readDigits_eq_ok_iff positive).mp (reads.symm.trans read)
      exact ⟨⟨c :: rest, signed, List.cons_ne_nil c rest, digits, value⟩, below⟩
  · rintro ⟨⟨digits, signed, filled, isDigits, value⟩, below⟩
    obtain ⟨c, rest, rfl⟩ := List.exists_cons_of_ne_nil filled
    rw [signed.readUnsigned_eq (isDigits c List.mem_cons_self), readDigits_eq_ok_iff positive]
    exact ⟨isDigits, value, below⟩

theorem readUnsigned_eq_tooLarge_iff (positive : 0 < bound) {text : String} :
    readUnsigned bound text = .error .tooLarge ↔ Exceeds bound text := by
  constructor
  · intro read
    rcases readUnsigned_cases bound text with ⟨-, fails⟩ | ⟨-, fails⟩ | ⟨c, rest, signed, reads⟩
    · exact nomatch read.symm.trans fails
    · exact nomatch read.symm.trans fails
    · obtain ⟨digits, after, split, isDigits, beyond⟩ :=
        (readDigits_eq_tooLarge_iff positive).mp (reads.symm.trans read)
      exact ⟨digits, after, split ▸ signed, isDigits, beyond⟩
  · rintro ⟨digits, after, signed, isDigits, beyond⟩
    cases digits with
    | nil => exact absurd positive (Nat.not_lt.mpr beyond)
    | cons c digits =>
      rw [List.cons_append] at signed
      rw [signed.readUnsigned_eq (isDigits c List.mem_cons_self),
        readDigits_eq_tooLarge_iff positive]
      exact ⟨c :: digits, after, rfl, isDigits, beyond⟩

theorem readUnsigned_eq_noDigits_iff {text : String} :
    readUnsigned bound text = .error .noDigits ↔ text = "" := by
  constructor
  · intro read
    rcases readUnsigned_cases bound text with ⟨empty, -⟩ | ⟨-, fails⟩ | ⟨c, rest, -, reads⟩
    · exact empty
    · exact nomatch read.symm.trans fails
    · exact absurd (reads.symm.trans read) readDigits_ne_noDigits
  · rintro rfl
    rfl

theorem IsUnsigned.lt_of_not_exceeds {text : String} (reads : IsUnsigned text n)
    (within : ¬ Exceeds bound text) : n < bound := by
  obtain ⟨digits, signed, -, isDigits, rfl⟩ := reads
  apply Nat.lt_of_not_le
  intro beyond
  exact within ⟨digits, [], (List.append_nil digits).symm ▸ signed, isDigits, beyond⟩

theorem readUnsigned_eq_error_iff (positive : 0 < bound) {text : String} {fault : NumberFault} :
    readUnsigned bound text = .error fault ↔ Misread bound text fault := by
  constructor
  · intro read
    cases fault with
    | noDigits => exact .noDigits (readUnsigned_eq_noDigits_iff.mp read)
    | tooLarge => exact .tooLarge ((readUnsigned_eq_tooLarge_iff positive).mp read)
    | badDigit =>
      have within : ¬ Exceeds bound text := by
        intro exceeds
        exact nomatch read.symm.trans ((readUnsigned_eq_tooLarge_iff positive).mpr exceeds)
      refine .badDigit ?_ within ?_
      · intro empty
        exact nomatch read.symm.trans (readUnsigned_eq_noDigits_iff.mpr empty)
      · intro n reads
        have accepted := (readUnsigned_eq_ok_iff positive).mpr ⟨reads, reads.lt_of_not_exceeds within⟩
        exact nomatch read.symm.trans accepted
  · intro misread
    cases misread with
    | noDigits empty => exact readUnsigned_eq_noDigits_iff.mpr empty
    | tooLarge exceeds => exact (readUnsigned_eq_tooLarge_iff positive).mpr exceeds
    | badDigit filled within other =>
      cases read : readUnsigned bound text with
      | ok n => exact absurd ((readUnsigned_eq_ok_iff positive).mp read).1 (other n)
      | error fault =>
        cases fault with
        | noDigits => exact absurd (readUnsigned_eq_noDigits_iff.mp read) filled
        | tooLarge => exact absurd ((readUnsigned_eq_tooLarge_iff positive).mp read) within
        | badDigit => rfl

theorem isUnsigned_decimal (n : Nat) : IsUnsigned (decimal n) n :=
  ⟨Nat.toDigits 10 n, .inl (toList_decimal n), Nat.toDigits_ne_nil,
    fun _ => isDigit_of_mem_digits, Nat.ofDigitChars_ten_toDigits⟩

/-! ### Plain scalars -/

namespace Yaml.Meaning

theorem magnitudeFrom?_eq_some (digits : ∀ c ∈ cs, c.isDigit = true) :
    magnitudeFrom? 10 value cs = some (Nat.ofDigitChars 10 cs value) := by
  induction cs generalizing value with
  | nil => rfl
  | cons c rest ih =>
    have isDigit : c.isDigit = true := digits c List.mem_cons_self
    have small : c.toNat - '0'.toNat < 10 := by
      have range := Char.isDigit_iff_toNat.mp isDigit
      have nine : '9'.toNat = '0'.toNat + 9 := rfl
      omega
    rw [magnitudeFrom?, hexValue?, if_pos isDigit, Option.bind_some, if_pos small,
      Nat.ofDigitChars_cons, Nat.mul_comm 10 value]
    exact ih fun d member => digits d (List.mem_cons_of_mem c member)

theorem head?_digits_ne_zero (positive : 0 < n) : (Nat.toDigits 10 n).head? ≠ some '0' := by
  induction n using Nat.strongRecOn with
  | ind n ih =>
    rw [Nat.toDigits_eq_if (by omega)]
    by_cases small : n < 10
    · have digit : n.digitChar ≠ '0' := by
        intro same
        have code := Nat.toNat_digitChar_of_lt_ten small
        have zero : '0'.toNat = 48 := rfl
        rw [same] at code
        omega
      simpa [small] using digit
    · have higher : (Nat.toDigits 10 (n / 10)).head? ≠ some '0' := ih (n / 10) (by omega) (by omega)
      rw [if_neg small, List.head?_append]
      cases first : (Nat.toDigits 10 (n / 10)).head? with
      | none => exact absurd (List.head?_eq_none_iff.mp first) Nat.toDigits_ne_nil
      | some c =>
        rw [first] at higher
        exact higher

theorem isZeroLed_digits (n : Nat) : isZeroLed (Nat.toDigits 10 n) = false := by
  rcases Nat.eq_zero_or_pos n with rfl | positive
  · rfl
  · have first := head?_digits_ne_zero positive
    have digits : ∀ c ∈ Nat.toDigits 10 n, c.isDigit = true := fun c => isDigit_of_mem_digits
    unfold isZeroLed
    cases shape : Nat.toDigits 10 n with
    | nil => rfl
    | cons c rest =>
      rw [shape] at first digits
      have unsigned : (c = '+' || c = '-') = false := by
        have isDigit := digits c List.mem_cons_self
        simp only [Bool.or_eq_false_iff, decide_eq_false_iff_not]
        constructor <;> rintro rfl <;> exact absurd isDigit (by decide)
      simp only [unsigned, Bool.false_eq_true, if_false]
      split
      · rename_i same
        cases same
        exact absurd rfl first
      · rfl

theorem unsigned?_decimal (below : n < bound) :
    unsigned? bound (decimal n).toList = some n := by
  have digits : ∀ c ∈ Nat.toDigits 10 n, c.isDigit = true := fun c => isDigit_of_mem_digits
  have zeroLed := isZeroLed_digits n
  have reads : magnitude? 10 (Nat.toDigits 10 n) = some n := by
    unfold magnitude?
    rw [if_neg (by simp [Nat.toDigits_ne_nil]), magnitudeFrom?_eq_some digits,
      Nat.ofDigitChars_ten_toDigits]
  rw [toList_decimal]
  unfold unsigned?
  cases shape : Nat.toDigits 10 n with
  | nil => exact absurd shape Nat.toDigits_ne_nil
  | cons c rest =>
    rw [shape] at digits zeroLed reads
    have isDigit := digits c List.mem_cons_self
    have plus : c ≠ '+' := by
      rintro rfl
      exact absurd isDigit (by decide)
    have minus : c ≠ '-' := by
      rintro rfl
      exact absurd isDigit (by decide)
    have unmarked : baseMark? (c :: rest) = none := by
      unfold baseMark?
      split
      · exact absurd (digits 'x' (by simp_all)) (by decide)
      · exact absurd (digits 'o' (by simp_all)) (by decide)
      · exact absurd (digits 'b' (by simp_all)) (by decide)
      · rfl
    simp [dropSign, isSigned, plus, minus, unmarked, zeroLed, reads, below]

end Yaml.Meaning

end HostEngine
