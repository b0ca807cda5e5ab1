import HostEngine.Config.Validation
import HostEngine.Proofs.Mode
/-!
# Modes by name and in documents

A document gives a mode by a name, which must be exact. Every name that it may give is read as the same
mode outside of documents too, where blanks, case and hyphens are forgiven, and the name that a mode
is written with is read by both (`names_read_exactly`).
-/
set_option autoImplicit false

namespace HostEngine.Config

open Yaml (Node Document Mark Style Properties)

/-- The name by which a node gives a mode: that in a tag of the document's own, else a scalar's
text. -/
def givenName? : Node → Option String
  | .scalar _ properties _ text => some ((ownTag? properties.tag).getD text)
  | .sequence _ properties _ | .mapping _ properties _ => ownTag? properties.tag
  | .reference _ _ => none

variable {document : Document} {path : KeyPath} {node : Node} {mode : Mode} {name : String}

theorem readModeName_eq_ok_iff : readModeName name = .ok mode ↔ name ∈ mode.documentNames := by
  rw [← Mode.ofDocumentName?_eq_some_iff, readModeName]
  cases Mode.ofDocumentName? name with
  | none => exact ⟨nofun, nofun⟩
  | some found => simp

theorem mem_documentNames_of_tagged
    (read : (do
      let mode ← readModeName name
      checkTagged path node
      .ok mode : Reading Mode) = .ok mode) : name ∈ mode.documentNames := by
  rw [← readModeName_eq_ok_iff]
  cases named : readModeName name with
  | error misfit =>
    rw [named] at read
    cases read
  | ok found =>
    cases checked : checkTagged path node with
    | error misfit => simp [named, checked, bind, Except.bind] at read
    | ok done => simpa [named, checked, bind, Except.bind] using read

theorem exists_name_of_readMode (read : readMode document path node = .ok mode) :
    ∃ name, givenName? (document.resolve node) = some name ∧ name ∈ mode.documentNames := by
  unfold readMode at read
  cases resolved : document.resolve node with
  | reference mark name =>
    rw [resolved] at read
    cases read
  | scalar mark properties style text =>
    cases tag : ownTag? properties.tag with
    | none =>
      simp only [resolved, tag] at read
      refine ⟨text, by simp [givenName?, tag], ?_⟩
      cases named : readModeName text with
      | error misfit => simp [named, Except.mapError] at read
      | ok found =>
        rw [named] at read
        cases read
        exact readModeName_eq_ok_iff.mp named
    | some name =>
      simp only [resolved, tag] at read
      exact ⟨name, by simp [givenName?, tag], mem_documentNames_of_tagged read⟩
  | sequence mark properties items =>
    cases tag : ownTag? properties.tag with
    | none => simp [resolved, tag] at read
    | some name =>
      simp only [resolved, tag] at read
      exact ⟨name, tag, mem_documentNames_of_tagged read⟩
  | mapping mark properties entries =>
    cases tag : ownTag? properties.tag with
    | none => simp [resolved, tag] at read
    | some name =>
      simp only [resolved, tag] at read
      exact ⟨name, tag, mem_documentNames_of_tagged read⟩

theorem readMode_of_mem_documentNames (member : name ∈ mode.documentNames) (mark : Mark) (style : Style) :
    readMode document path (.scalar mark .none style name) = .ok mode := by
  show (readModeName name).mapError _ = _
  rw [readModeName_eq_ok_iff.mpr member]
  rfl

theorem modeOfDocument_name (mode : Mode) :
    (Document.parse? mode.name).map modeOfDocument = some (.ok mode) := by
  cases mode with
  | embedded => decide +kernel
  | standalone => decide +kernel
  | managedChild => decide +kernel

/-- A text is read as a mode if and only if it spells it, and is given back as it is if it spells none;
so blanks around it, case, and hyphens for underscores make no difference. What a document gives as
a name of a mode is read as that mode, and the name that a mode is written with is read by both. -/
theorem names_read_exactly :
    (∀ text mode, Mode.parse text = .ok mode ↔ Mode.Spells text mode) ∧
      (∀ text unknown, Mode.parse text = .error unknown ↔
        unknown = ⟨text⟩ ∧ ∀ mode, ¬ Mode.Spells text mode) ∧
      (∀ before text after : String, (∀ c ∈ before.toList, isBlank c = true) →
        (∀ c ∈ after.toList, isBlank c = true) →
        ∀ mode, Mode.parse (before ++ text ++ after) = .ok mode ↔ Mode.parse text = .ok mode) ∧
      (∀ text other : String, List.Forall₂ Mode.Alike other.toList text.toList →
        ∀ mode, Mode.parse other = .ok mode ↔ Mode.parse text = .ok mode) ∧
      (∀ document path node mode, readMode document path node = .ok mode →
        ∃ name, givenName? (document.resolve node) = some name ∧ Mode.parse name = .ok mode) ∧
      ∀ mode : Mode, Mode.parse mode.name = .ok mode ∧
        (Document.parse? mode.name).map modeOfDocument = some (.ok mode) ∧
        ∀ document path mark style,
          readMode document path (.scalar mark .none style mode.name) = .ok mode := by
  refine ⟨?_, ?_, ?_, ?_, ?_, ?_⟩
  · intro text mode
    exact Mode.parse_eq_ok_iff
  · intro text unknown
    exact Mode.parse_eq_error_iff
  · intro before text after blankBefore blankAfter mode
    exact Mode.parse_congr (Mode.canonicalName_of_blanks blankBefore blankAfter)
  · intro text other alike mode
    exact Mode.parse_congr (Mode.canonicalName_of_alike alike)
  · intro document path node mode read
    obtain ⟨name, given, member⟩ := exists_name_of_readMode read
    exact ⟨name, given,
      Mode.parse_of_mem_spellings (Mode.mem_spellings_of_mem_documentNames member)⟩
  · intro mode
    refine ⟨Mode.parse_of_mem_spellings (Mode.name_mem_spellings mode), modeOfDocument_name mode, ?_⟩
    intro document path mark style
    exact readMode_of_mem_documentNames (Mode.name_mem_documentNames mode) mark style

/-- The name in a tag, in other letters and between blanks of two kinds. A second separator is one too
many. -/
theorem names_read_exactly_of_tagged :
    let node : Node := .scalar .start ⟨none, some (.ofString "!start_hostengine")⟩ .plain "~"
    let document : Document := ⟨some node, .start, []⟩
    readMode document [] node = .ok .managedChild ∧
      Mode.parse "\u3000Start-HostEngine\n" = .ok .managedChild ∧
      ∀ mode, ¬ Mode.Spells " start_-hostengine" mode := by
  intro node document
  obtain ⟨-, unread, blanks, alike, given, -⟩ := names_read_exactly
  have read : readMode document [] node = .ok .managedChild := by decide +kernel
  have plain : Mode.parse "start_hostengine" = .ok .managedChild := by
    obtain ⟨name, named, parsed⟩ := given document [] node _ read
    have tag : givenName? (document.resolve node) = some "start_hostengine" := by decide +kernel
    cases tag.symm.trans named
    exact parsed
  have respelled := (alike "start_hostengine" "Start-HostEngine" (by decide) _).mpr plain
  have other : Mode.parse " start_-hostengine" = .error ⟨" start_-hostengine"⟩ := by decide +kernel
  have within : "\u3000Start-HostEngine\n" = "\u3000" ++ "Start-HostEngine" ++ "\n" := by decide +kernel
  refine ⟨read, ?_, ((unread _ _).mp other).2⟩
  have blankBefore : "\u3000".toList.all isBlank = true := by decide
  have blankAfter : "\n".toList.all isBlank = true := by decide
  rw [within, blanks _ _ _ (List.all_eq_true.mp blankBefore) (List.all_eq_true.mp blankAfter)]
  exact respelled

end HostEngine.Config
