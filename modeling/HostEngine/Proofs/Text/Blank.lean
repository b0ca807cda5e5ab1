import HostEngine.Text.Blank
import Mathlib.Data.List.DropRight
/-!
# Trimmed texts

Trimming takes blanks away at both ends and nothing else, however many are added there.
-/
set_option autoImplicit false

namespace HostEngine

variable {cs before after : List Char}

theorem dropTrailingBlanks_append (blank : ∀ c ∈ after, isBlank c = true) :
    dropTrailingBlanks (cs ++ after) = dropTrailingBlanks cs := by
  have reversed : ∀ c ∈ after.reverse, isBlank c = true := by
    intro c member
    exact blank c (List.mem_reverse.mp member)
  unfold dropTrailingBlanks
  rw [List.reverse_append, List.dropWhile_append_of_pos reversed]

theorem exists_trimBlanks (cs : List Char) :
    ∃ before after, cs = before ++ trimBlanks cs ++ after ∧
      (∀ c ∈ before, isBlank c = true) ∧ ∀ c ∈ after, isBlank c = true := by
  have left := List.takeWhile_append_dropWhile (p := isBlank) (l := cs)
  have right := List.takeWhile_append_dropWhile (p := isBlank) (l := (cs.dropWhile isBlank).reverse)
  refine ⟨cs.takeWhile isBlank, ((cs.dropWhile isBlank).reverse.takeWhile isBlank).reverse, ?_, ?_, ?_⟩
  · rw [trimBlanks, dropTrailingBlanks, List.append_assoc, ← List.reverse_append, right,
      List.reverse_reverse, left]
  · intro c member
    exact List.mem_takeWhile_imp member
  · intro c member
    exact List.mem_takeWhile_imp (List.mem_reverse.mp member)

theorem trimBlanks_append (blankBefore : ∀ c ∈ before, isBlank c = true)
    (blankAfter : ∀ c ∈ after, isBlank c = true) :
    trimBlanks (before ++ cs ++ after) = trimBlanks cs := by
  unfold trimBlanks
  rw [List.append_assoc, List.dropWhile_append_of_pos blankBefore, List.dropWhile_append]
  -- If nothing but blanks stands between, those behind are dropped from the front.
  cases kept : cs.dropWhile isBlank with
  | nil =>
    have none : after.dropWhile isBlank = [] := List.dropWhile_eq_nil_iff.mpr blankAfter
    simp [none]
  | cons c rest =>
    have trimmed : dropTrailingBlanks (c :: rest ++ after) = dropTrailingBlanks (c :: rest) :=
      dropTrailingBlanks_append blankAfter
    simpa using trimmed

theorem trimBlanks_of_not_blank (none : ∀ c ∈ cs, isBlank c = false) : trimBlanks cs = cs := by
  have keeps : ∀ ds : List Char, (∀ c ∈ ds, isBlank c = false) → ds.dropWhile isBlank = ds := by
    intro ds none
    cases ds with
    | nil => rfl
    | cons d rest => simp [none d List.mem_cons_self]
  have reversed : ∀ c ∈ cs.reverse, isBlank c = false := by
    intro c member
    exact none c (List.mem_reverse.mp member)
  rw [trimBlanks, dropTrailingBlanks, keeps cs none, keeps cs.reverse reversed, List.reverse_reverse]

theorem map_trimBlanks {f : Char → Char} (same : ∀ c, isBlank (f c) = isBlank c) :
    (trimBlanks cs).map f = trimBlanks (cs.map f) := by
  have composed : isBlank ∘ f = isBlank := funext same
  unfold trimBlanks dropTrailingBlanks
  rw [List.dropWhile_map, ← List.map_reverse, List.dropWhile_map, composed, List.map_reverse]

end HostEngine
