import HostEngine.Mode
import HostEngine.Proofs.Text.Blank
import Mathlib.Data.List.Forall2
/-!
# Names of modes

A text is read as a mode if and only if it has, between blanks, the characters of one of the mode's
spellings, but for ASCII case and the choice between hyphen and underscore (`parse_eq_ok_iff`). Any
other text is given back as it is.
-/
set_option autoImplicit false

namespace HostEngine.Mode

def spellings : Mode → List String
  | .embedded => ["embedded"]
  | .standalone => ["standalone"]
  | .managedChild => ["managed_child", "start_hostengine"]

/-- Characters that names do not tell apart: the same but for ASCII case, or a hyphen and an
underscore. -/
def Alike (a b : Char) : Prop :=
  a.toLower = b.toLower ∨ (a = '-' ∨ a = '_') ∧ (b = '-' ∨ b = '_')

instance (a b : Char) : Decidable (Alike a b) :=
  inferInstanceAs (Decidable (_ ∨ _))

/-- Between blanks, the text has the characters of a spelling of the mode. -/
def Spells (text : String) (mode : Mode) : Prop :=
  ∃ before core after, text.toList = before ++ core ++ after ∧
    (∀ c ∈ before, isBlank c = true) ∧ (∀ c ∈ after, isBlank c = true) ∧
    ∃ spelling ∈ mode.spellings, List.Forall₂ Alike core spelling.toList

variable {mode : Mode} {text other name : String} {a b c : Char}

/-! ### Characters -/

theorem toLower_cases (c : Char) :
    c.toLower = c ∨ 65 ≤ c.toNat ∧ c.toNat ≤ 90 ∧ c.toLower.toNat = c.toNat + 32 := by
  unfold Char.toLower
  split
  · rename_i upper
    obtain ⟨least, greatest⟩ := upper
    have above : 65 ≤ c.toNat := UInt32.le_iff_toNat_le.mp least
    have below : c.toNat ≤ 90 := UInt32.le_iff_toNat_le.mp greatest
    refine .inr ⟨above, below, ?_⟩
    have sum : (c.val + 32).toNat = (c.toNat + 32) % 2 ^ 32 := UInt32.toNat_add c.val 32
    show (c.val + 32).toNat = c.toNat + 32
    omega
  · exact .inl rfl

theorem eq_of_toLower_eq (lower : a.toLower = b) (below : b.toNat < 97) : a = b := by
  rcases toLower_cases a with same | ⟨least, -, value⟩
  · exact same.symm.trans lower
  · rw [lower] at value
    omega

theorem canonicalChar_of_ne (other : c ≠ '-') : canonicalChar c = c.toLower :=
  if_neg other

theorem canonicalChar_eq_underscore_iff : canonicalChar c = '_' ↔ c = '-' ∨ c = '_' := by
  constructor
  · intro underscore
    by_cases hyphen : c = '-'
    · exact .inl hyphen
    · rw [canonicalChar_of_ne hyphen] at underscore
      exact .inr (eq_of_toLower_eq underscore (by decide))
  · rintro (rfl | rfl)
    · rfl
    · rfl

theorem eq_hyphen_iff_of_toLower_eq (same : a.toLower = b.toLower) : a = '-' ↔ b = '-' := by
  constructor
  · rintro rfl
    exact eq_of_toLower_eq same.symm (by decide)
  · rintro rfl
    exact eq_of_toLower_eq same (by decide)

theorem canonicalChar_eq_iff : canonicalChar a = canonicalChar b ↔ Alike a b := by
  constructor
  · intro same
    by_cases underscore : canonicalChar a = '_'
    · have second : canonicalChar b = '_' := same.symm.trans underscore
      exact .inr ⟨canonicalChar_eq_underscore_iff.mp underscore,
        canonicalChar_eq_underscore_iff.mp second⟩
    · have first : a ≠ '-' := by
        rintro rfl
        exact underscore rfl
      have second : b ≠ '-' := by
        rintro rfl
        exact underscore same
      rw [canonicalChar_of_ne first, canonicalChar_of_ne second] at same
      exact .inl same
  · rintro (same | ⟨first, second⟩)
    · by_cases hyphen : a = '-'
      · rw [hyphen, (eq_hyphen_iff_of_toLower_eq same).mp hyphen]
      · have second : b ≠ '-' := fun is => hyphen ((eq_hyphen_iff_of_toLower_eq same).mpr is)
        rw [canonicalChar_of_ne hyphen, canonicalChar_of_ne second, same]
    · rw [canonicalChar_eq_underscore_iff.mpr first, canonicalChar_eq_underscore_iff.mpr second]

theorem isBlank_eq_false (above : 0x20 < c.toNat) (below : c.toNat < 0x85) : isBlank c = false := by
  unfold isBlank
  simp only [Bool.or_eq_false_iff, Bool.and_eq_false_iff, decide_eq_false_iff_not]
  omega

theorem isBlank_canonicalChar (c : Char) : isBlank (canonicalChar c) = isBlank c := by
  by_cases hyphen : c = '-'
  · subst hyphen
    rfl
  · rw [canonicalChar_of_ne hyphen]
    rcases toLower_cases c with same | ⟨least, greatest, value⟩
    · rw [same]
    · have lower : isBlank c.toLower = false := isBlank_eq_false (by omega) (by omega)
      rw [lower, isBlank_eq_false (by omega) (by omega)]

/-! ### Spellings -/

theorem ofName?_eq_some_iff : ofName? name = some mode ↔ name ∈ mode.spellings := by
  unfold ofName?
  split
  all_goals cases mode <;> simp_all [spellings]

theorem canonical_of_mem_spellings (member : name ∈ mode.spellings) :
    name.toList.map canonicalChar = name.toList := by
  have all : ∀ name ∈ mode.spellings, name.toList.map canonicalChar = name.toList := by
    cases mode <;> decide
  exact all name member

theorem not_blank_of_mem_spellings (member : name ∈ mode.spellings) :
    ∀ c ∈ name.toList, isBlank c = false := by
  have all : ∀ name ∈ mode.spellings, name.toList.all (fun c => !isBlank c) = true := by
    cases mode <;> decide
  intro c inside
  simpa using List.all_eq_true.mp (all name member) c inside

theorem map_eq_map_iff_alike {first second : List Char} :
    first.map canonicalChar = second.map canonicalChar ↔ List.Forall₂ Alike first second := by
  have pointwise : (fun a b => canonicalChar a = canonicalChar b) = Alike := by
    funext a b
    exact propext canonicalChar_eq_iff
  rw [← pointwise, ← List.forall₂_eq_eq_eq, List.forall₂_map_left_iff, List.forall₂_map_right_iff]

theorem parse?_eq_some_iff : parse? text = some mode ↔ Spells text mode := by
  rw [parse?, ofName?_eq_some_iff]
  constructor
  · intro member
    obtain ⟨before, after, split, blankBefore, blankAfter⟩ := exists_trimBlanks text.toList
    refine ⟨before, _, after, split, blankBefore, blankAfter, canonicalName text, member, ?_⟩
    rw [← map_eq_map_iff_alike, canonical_of_mem_spellings member, canonicalName,
      String.toList_ofList]
  · rintro ⟨before, core, after, split, blankBefore, blankAfter, spelling, member, alike⟩
    have same : core.map canonicalChar = spelling.toList := by
      rw [map_eq_map_iff_alike.mpr alike, canonical_of_mem_spellings member]
    -- No character that is alike one of a spelling is blank, so trimming leaves the core.
    have plain : ∀ c ∈ core, isBlank c = false := by
      intro c inside
      have mapped : canonicalChar c ∈ spelling.toList := same ▸ List.mem_map_of_mem inside
      rw [← isBlank_canonicalChar]
      exact not_blank_of_mem_spellings member _ mapped
    have name : canonicalName text = spelling := by
      rw [canonicalName, split, trimBlanks_append blankBefore blankAfter,
        trimBlanks_of_not_blank plain, same, String.ofList_toList]
    rw [name]
    exact member

theorem parse_eq_ok_iff : parse text = .ok mode ↔ Spells text mode := by
  rw [← parse?_eq_some_iff, parse]
  cases parse? text with
  | none => exact ⟨nofun, nofun⟩
  | some found => simp

theorem parse_eq_error_iff {unknown : Unknown} :
    parse text = .error unknown ↔ unknown = ⟨text⟩ ∧ ∀ mode, ¬ Spells text mode := by
  simp only [← parse?_eq_some_iff, parse]
  cases parse? text with
  | none => simp [eq_comm]
  | some found => simp

theorem parse_of_mem_spellings (member : name ∈ mode.spellings) : parse name = .ok mode := by
  refine parse_eq_ok_iff.mpr ⟨[], name.toList, [], by simp, nofun, nofun, name, member, ?_⟩
  exact map_eq_map_iff_alike.mp rfl

theorem name_mem_spellings (mode : Mode) : mode.name ∈ mode.spellings := by
  cases mode <;> decide

/-! ### Names in documents -/

theorem ofDocumentName?_eq_some_iff :
    ofDocumentName? name = some mode ↔ name ∈ mode.documentNames := by
  constructor
  · intro given
    simpa using List.find?_some given
  · intro member
    have each : ∀ name ∈ mode.documentNames, ofDocumentName? name = some mode := by
      cases mode <;> decide
    exact each name member

theorem name_mem_documentNames (mode : Mode) : mode.name ∈ mode.documentNames := by
  cases mode <;> decide

theorem mem_spellings_of_mem_documentNames (member : name ∈ mode.documentNames) :
    name ∈ mode.spellings := by
  have each : ∀ name ∈ mode.documentNames, name ∈ mode.spellings := by
    cases mode <;> decide
  exact each name member

/-! ### Other spellings of a name -/

theorem parse_congr (same : canonicalName other = canonicalName text) :
    parse other = .ok mode ↔ parse text = .ok mode := by
  rw [parse_eq_ok_iff, parse_eq_ok_iff, ← parse?_eq_some_iff, ← parse?_eq_some_iff, parse?, parse?,
    same]

theorem canonicalName_of_blanks {before after : String}
    (blankBefore : ∀ c ∈ before.toList, isBlank c = true)
    (blankAfter : ∀ c ∈ after.toList, isBlank c = true) :
    canonicalName (before ++ text ++ after) = canonicalName text := by
  rw [canonicalName, String.toList_append, String.toList_append,
    trimBlanks_append blankBefore blankAfter, canonicalName]

theorem canonicalName_of_alike (alike : List.Forall₂ Alike other.toList text.toList) :
    canonicalName other = canonicalName text := by
  rw [canonicalName, canonicalName, map_trimBlanks isBlank_canonicalChar,
    map_trimBlanks isBlank_canonicalChar, map_eq_map_iff_alike.mpr alike]

end HostEngine.Mode
