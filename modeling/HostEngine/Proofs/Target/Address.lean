import HostEngine.Proofs.Session.Startup
import HostEngine.Proofs.Target
/-!
# How a target's address is told

A target tells its address in three ways: as octets to the library, as a text of its own, and within
the target's text. The three tell the same if and only if the octets are text
(`oneAddress_iff_isText`). The path of a socket need not be: then its own text is empty, while the
library gets the octets and the target's text replaces what is ill-formed.
-/
set_option autoImplicit false

namespace HostEngine

namespace Octets

def IsText (octets : Octets) : Prop := ∃ text, octets = .ofString text

theorem shown_eq_empty_iff {octets : Octets} : octets.shown = "" ↔ octets = [] := by
  constructor
  · intro empty
    have noPieces : octets.pieces = [] := by
      have noChars := congrArg String.toList empty
      rw [shown, String.toList_ofList] at noChars
      exact List.map_eq_nil_iff.mp noChars
    cases octets with
    | nil => rfl
    | cons octet rest =>
      unfold pieces at noPieces
      rw [piecesAfter] at noPieces
      split at noPieces
      · cases noPieces
      · cases noPieces
  · rintro rfl
    rfl

theorem text?_eq_none_iff {octets : Octets} : octets.text? = none ↔ ¬ octets.IsText := by
  cases decoded : octets.text? with
  | none =>
    refine iff_of_true rfl ?_
    rintro ⟨text, rfl⟩
    exact nomatch decoded.symm.trans (text?_ofString text)
  | some text => exact iff_of_false nofun fun not => not ⟨text, text?_eq_some_iff.mp decoded⟩

end Octets

namespace Target

open Procedure

variable {target : Target}

def scheme (target : Target) : String := if target.flag = 0 then "tcp://" else "unix://"

theorem text_eq (target : Target) : target.text = target.scheme ++ target.octets.shown := by
  unfold text scheme
  by_cases zero : target.flag = 0
  · simp [zero]
  · simp [zero]

/-- The target's text is the scheme and its address as text, and that is empty only if the library is
given an empty address in every call that connects to the target. -/
structure OneAddress (target : Target) : Prop where
  text : target.text = target.scheme ++ target.address
  given : target.address = "" → ∀ library trace linked,
    Yields (Session.connect library target) trace linked →
    ∀ called octets params reply,
      Exchange.called called (.connect octets params) reply ∈ trace → octets = []

theorem octets_of_connect {library called : Native.Library} {trace : List Exchange}
    {linked : Except Failure Link} {octets : Octets} {params : Native.ConnectParams}
    {reply : Except Native.Failure Native.Handle}
    (connects : Yields (Session.connect library target) trace linked)
    (member : .called called (.connect octets params) reply ∈ trace) : octets = target.octets := by
  obtain ⟨opened, opening, -⟩ := Session.performs_connect_iff.mp connects.performs
  have effect : .called called (.connect octets params) reply ∈ effects trace :=
    List.mem_filter.mpr ⟨member, rfl⟩
  generalize effects trace = done at opening effect
  cases opening with
  | uninitialized failure => simp at effect
  | unopened failure shutdown =>
    simp only [List.mem_cons, List.not_mem_nil, or_false] at effect
    rcases effect with other | asked | other
    · cases other
    · cases asked
      rfl
    · cases other
  | opened handle =>
    simp only [List.mem_cons, List.not_mem_nil, or_false] at effect
    rcases effect with other | asked
    · cases other
    · cases asked
      rfl

theorem oneAddress_of_isText (isText : target.octets.IsText) : target.OneAddress := by
  obtain ⟨address, octets⟩ := isText
  have same : target.address = address := address_eq octets
  constructor
  · rw [text_eq, octets, Octets.shown_ofString, same]
  · intro empty library trace linked connects called given params reply member
    rw [octets_of_connect connects member, octets, ← same, empty]
    rfl

theorem address_of_not_isText (other : ¬ target.octets.IsText) : target.address = "" := by
  rw [address, Octets.text?_eq_none_iff.mpr other, Option.getD_none]

theorem shown_ne_empty_of_not_isText (other : ¬ target.octets.IsText) :
    target.octets.shown ≠ "" := by
  intro empty
  exact other ⟨"", Octets.shown_eq_empty_iff.mp empty⟩

theorem isText_of_oneAddress (one : target.OneAddress) : target.octets.IsText := by
  apply Classical.byContradiction
  intro other
  have same : target.scheme ++ target.octets.shown = target.scheme ++ target.address := by
    rw [← text_eq, one.text]
  rw [address_of_not_isText other, String.append_right_inj] at same
  exact shown_ne_empty_of_not_isText other same

/-- A target tells one address if and only if its octets are text. So does every target that is given
as a text; one that is given as a path only if the path is text. Else its address is empty as a text,
though it is not and is shown. -/
theorem oneAddress_iff_isText (target : Target) :
    (target.OneAddress ↔ target.octets.IsText) ∧
      (∀ args, ofArgs args = .ok target → target.OneAddress) ∧
      (∀ address flag, ofAddress address flag = .ok target → target.OneAddress) ∧
      (∀ path, ofSocketPath path = .ok target → (target.OneAddress ↔ path.IsText)) ∧
      (¬ target.octets.IsText → target.address = "" ∧ target.octets ≠ [] ∧
        target.text = target.scheme ++ target.octets.shown ∧ target.octets.shown ≠ "") := by
  have told : target.OneAddress ↔ target.octets.IsText :=
    ⟨isText_of_oneAddress, oneAddress_of_isText⟩
  refine ⟨told, ?_, ?_, ?_, ?_⟩
  · intro args accepted
    obtain ⟨address, -, -, -, -, octets⟩ := ofArgs_eq_ok_iff.mp accepted
    exact told.mpr ⟨address, octets⟩
  · intro address flag made
    obtain ⟨octets, -⟩ := ofAddress_eq_ok_iff.mp made
    exact told.mpr ⟨address, octets⟩
  · intro path made
    obtain ⟨rfl, -⟩ := ofSocketPath_eq_ok_iff.mp made
    exact told
  · intro other
    have shown := shown_ne_empty_of_not_isText other
    refine ⟨address_of_not_isText other, ?_, text_eq target, shown⟩
    intro empty
    exact shown (Octets.shown_eq_empty_iff.mpr empty)

/-- A path beyond ASCII is text. -/
theorem oneAddress_iff_isText_of_umlaut :
    let path := Octets.ofString "/\u00FC"
    ∃ target, ofSocketPath path = .ok target ∧ path.IsText ∧ target.OneAddress ∧
      target.text = "unix:///\u00FC" := by
  intro path
  have nulFree : path.hasNul = false := by decide
  have made := ofSocketPath_eq_ok nulFree
  have isText : path.IsText := ⟨_, rfl⟩
  obtain ⟨-, -, -, ofPath, -⟩ := oneAddress_iff_isText ⟨path, 1, nulFree⟩
  refine ⟨_, made, isText, (ofPath path made).mpr isText, ?_⟩
  rw [text_eq, Octets.shown_ofString]
  rfl

/-- A path that ends in the octet 255 is no text, so the target tells no address by itself and one with
a replacement character in its text. -/
theorem not_oneAddress_of_broken :
    let path := Octets.ofString "/tmp/" ++ [0xFF]
    ∃ target, ofSocketPath path = .ok target ∧ target.address = "" ∧
      target.text = "unix:///tmp/\uFFFD" ∧ ¬ target.OneAddress := by
  intro path
  have nulFree : path.hasNul = false := by decide
  have broken : ¬ path.IsText := Octets.text?_eq_none_iff.mp (by decide +kernel)
  have shown : path.shown = "/tmp/\uFFFD" := by decide +kernel
  refine ⟨_, ofSocketPath_eq_ok nulFree, address_of_not_isText broken, ?_, ?_⟩
  · rw [text_eq]
    show "unix://" ++ path.shown = _
    rw [shown]
    rfl
  · intro one
    exact broken (isText_of_oneAddress one)

end Target

end HostEngine
