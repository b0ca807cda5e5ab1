import HostEngine.Config.Validation
import HostEngine.Config.Writing
import HostEngine.Proofs.Text.Digits
import HostEngine.Proofs.Text.Octets
/-!
# What is written is read back

A configuration that is written as a document is read back from it, also if entries are left out
that say what would be taken anyway (`load_of_written`). How the document's text is written and parsed
is not looked at: all that counts is that the nodes come back as they were, at whatever places.
-/
set_option autoImplicit false

namespace HostEngine

/-! ### Nodes -/

namespace Yaml.Node

mutual

/-- The node with the places forgotten. -/
def unplaced : Node → Node
  | reference _ name => reference .start name
  | scalar _ properties style text => scalar .start properties style text
  | sequence _ properties items => sequence .start properties (unplacedItems items)
  | mapping _ properties entries => mapping .start properties (unplacedEntries entries)

def unplacedItems : List Node → List Node
  | [] => []
  | item :: rest => unplaced item :: unplacedItems rest

def unplacedEntries : List (Node × Node) → List (Node × Node)
  | [] => []
  | (key, value) :: rest => (unplaced key, unplaced value) :: unplacedEntries rest

end

variable {node : Node} {properties : Properties} {style : Style} {text : String}
  {entries first rest : List (Node × Node)}

theorem eq_scalar_of_unplaced (same : node.unplaced = .scalar .start properties style text) :
    ∃ mark, node = .scalar mark properties style text := by
  cases node with
  | scalar mark _ _ _ =>
    cases same
    exact ⟨mark, rfl⟩
  | _ => cases same

theorem eq_mapping_of_unplaced (same : node.unplaced = .mapping .start properties entries) :
    ∃ mark inside, node = .mapping mark properties inside ∧ unplacedEntries inside = entries := by
  cases node with
  | mapping mark _ inside =>
    cases same
    exact ⟨mark, inside, rfl, rfl⟩
  | _ => cases same

theorem exists_append_of_unplaced (same : unplacedEntries entries = first ++ rest) :
    ∃ before behind, entries = before ++ behind ∧ unplacedEntries before = first ∧
      unplacedEntries behind = rest := by
  induction first generalizing entries with
  | nil => exact ⟨[], entries, rfl, rfl, same⟩
  | cons entry more ih =>
    cases entries with
    | nil => cases same
    | cons head tail =>
      obtain ⟨headSame, tailSame⟩ := List.cons.inj same
      obtain ⟨before, behind, rfl, begins, ends⟩ := ih tailSame
      refine ⟨head :: before, behind, rfl, ?_, ends⟩
      rw [unplacedEntries, begins, headSame]

theorem eq_nil_of_unplaced (same : unplacedEntries entries = []) : entries = [] := by
  cases entries with
  | nil => rfl
  | cons head tail => cases same

theorem eq_singleton_of_unplaced {key value : Node}
    (same : unplacedEntries entries = [(key, value)]) :
    ∃ key' value', entries = [(key', value')] ∧ key'.unplaced = key ∧ value'.unplaced = value := by
  cases entries with
  | nil => cases same
  | cons head tail =>
    obtain ⟨headSame, tailSame⟩ := List.cons.inj same
    obtain rfl := eq_nil_of_unplaced tailSame
    exact ⟨head.1, head.2, rfl, congrArg Prod.fst headSame, congrArg Prod.snd headSame⟩

end Yaml.Node

namespace Config

open Yaml (Node Document Mark Style Properties Meaning)

mutual

/-- The node without the entries, of mappings in it, that certain keys lead to. -/
def without (omitted : List KeyPath) (path : KeyPath) : Node → Node
  | .mapping mark properties entries =>
    .mapping mark properties (withoutEntries omitted path entries)
  | .scalar mark properties style text => .scalar mark properties style text
  | .sequence mark properties items => .sequence mark properties items
  | .reference mark name => .reference mark name

def withoutEntries (omitted : List KeyPath) (path : KeyPath) :
    List (Node × Node) → List (Node × Node)
  | [] => []
  | (key, value) :: rest =>
    if keyPath path key ∈ omitted then withoutEntries omitted path rest
    else (key, without omitted (keyPath path key) value) :: withoutEntries omitted path rest

end

/-- An entry of a configuration's document says what would be taken without it. -/
def Omissible (config : Config) : KeyPath → Prop
  | [some "log_level"] => config.logLevel = defaultLogLevel
  | [some "library"] => config.library = Native.defaultLibrary
  | [some "library", some "name"] => config.library = Native.defaultLibrary
  | [some "standalone", some "address_is_unix_socket"] =>
    config.standalone.map (·.flag) = some 0
  | [some "hostengine"] => config.child = .default
  | [some "hostengine", some "executable"] => config.child.executable = defaultExecutable
  | [some "hostengine", some "search_path"] => config.child.searchPath = none
  | [some "hostengine", some "scratch_directory"] =>
    config.child.scratchDirectory = .ofString defaultScratchDirectory
  | [some "hostengine", some "socket_prefix"] => config.child.socketStem = defaultSocketStem
  | _ => False

variable {omitted : List KeyPath} {path : KeyPath} {name : String} {value node : Node}

def field (omitted : List KeyPath) (path : KeyPath) (name : String) (value : Node) :
    List (Node × Node) :=
  if path ++ [some name] ∈ omitted then []
  else [(keyNode name, without omitted (path ++ [some name]) value)]

theorem without_sectionNode (entries : List (String × Node)) :
    without omitted path (sectionNode entries) =
      .mapping .start .none (entries.flatMap fun entry => field omitted path entry.1 entry.2) := by
  unfold sectionNode
  rw [without]
  congr 1
  induction entries with
  | nil => rfl
  | cons entry rest ih =>
    have named : keyPath path (keyNode entry.1) = path ++ [some entry.1] := rfl
    rw [List.map_cons, withoutEntries, named, ih, List.flatMap_cons, field]
    split
    · rfl
    · rfl

/-! ### Scalars -/

variable {document : Document} {text expected : String}

theorem readText_of_unplaced {style : Style}
    (same : node.unplaced = .scalar .start .none style text) :
    readText document path expected node = .ok text := by
  obtain ⟨mark, rfl⟩ := Yaml.Node.eq_scalar_of_unplaced same
  rfl

theorem readWord_of_unplaced {flag : UInt32} (same : node.unplaced = numberNode flag.toNat) :
    readWord document path node = .ok flag := by
  obtain ⟨mark, rfl⟩ := Yaml.Node.eq_scalar_of_unplaced same
  have fits : flag.toNat < UInt64.size := Nat.lt_trans flag.toNat_lt_size (by decide)
  have read := Meaning.unsigned?_decimal fits
  have small : flag.toNat < UInt32.size := flag.toNat_lt_size
  simp only [readWord, Document.resolve, read, decide_true, Bool.true_or, if_true, if_pos small,
    UInt32.ofNat_toNat]

theorem readMode_of_unplaced {mode : Mode} (same : node.unplaced = textNode mode.documentName) :
    readMode document path node = .ok mode := by
  obtain ⟨mark, rfl⟩ := Yaml.Node.eq_scalar_of_unplaced same
  cases mode with
  | embedded => rfl
  | standalone => rfl
  | managedChild => rfl

/-- A text is written plain only if it reads as a text. -/
theorem ofText_of_plain (plain : Yaml.Print.styleOf text = .plain) :
    Meaning.ofText text = .text := by
  unfold Yaml.Print.styleOf at plain
  dsimp only at plain
  split at plain
  · split at plain
    · cases plain
    · cases plain
  · split at plain
    · rename_i reads
      simp only [Bool.and_eq_true, decide_eq_true_eq] at reads
      exact reads.1.1
    · split at plain
      · cases plain
      · cases plain

theorem readAbsence_of_unplaced (same : node.unplaced = textNode text) :
    readAbsence node = .ok false := by
  obtain ⟨mark, rfl⟩ := Yaml.Node.eq_scalar_of_unplaced same
  unfold readAbsence
  by_cases plain : Yaml.Print.styleOf text = .plain
  · have there : (text = "" || Meaning.isNull text) = false := by
      have reads := ofText_of_plain plain
      unfold Meaning.ofText at reads
      split at reads
      · cases reads
      · rename_i nothing
        exact Bool.eq_false_iff.mpr nothing
    simp [plain, Properties.none, there]
  · simp [plain]

/-! ### Sections -/

variable {σ α β : Type} {take : σ → String → KeyPath → Node → Reading σ} {draft next : σ}
  {entries first rest : List (Node × Node)}

theorem readEntries_append (first rest : List (Node × Node)) (draft : σ) :
    readEntries document path take draft (first ++ rest) =
      (readEntries document path take draft first).bind fun draft =>
        readEntries document path take draft rest := by
  induction first generalizing draft with
  | nil => rfl
  | cons entry more ih =>
    obtain ⟨key, value⟩ := entry
    simp only [List.cons_append, readEntries]
    cases readText document path "field identifier" key with
    | error misfit => rfl
    | ok name =>
      cases taken : take draft name (keyPath path key) value with
      | error misfit => simp [bind, Except.bind, taken]
      | ok next => simpa [bind, Except.bind, taken] using ih next

/-- An entry that stands first, or is left out, fills its place in the draft or leaves it empty;
then the rest is read. -/
theorem readEntries_field {P : σ → Prop} (place : Option β → σ) (read : Node → Reading β)
    (filled : β) (written : Node.unplacedEntries entries = field omitted path name value ++ rest)
    (takes : ∀ node, take (place none) name (path ++ [some name]) node =
      (once name none (read node)).bind fun b => .ok (place b))
    (reads : ∀ node, node.unplaced = without omitted (path ++ [some name]) value →
      read node = .ok filled)
    (goes : ∀ left, Node.unplacedEntries left = rest →
      ∃ last, readEntries document path take
        (place (if path ++ [some name] ∈ omitted then none else some filled)) left = .ok last ∧
        P last) :
    ∃ last, readEntries document path take (place none) entries = .ok last ∧ P last := by
  obtain ⟨part, left, rfl, begins, ends⟩ := Node.exists_append_of_unplaced written
  have readPart : readEntries document path take (place none) part =
      .ok (place (if path ++ [some name] ∈ omitted then none else some filled)) := by
    unfold field at begins
    split at begins
    · rename_i omits
      rw [Node.eq_nil_of_unplaced begins, if_pos omits]
      rfl
    · rename_i keeps
      obtain ⟨key, node, rfl, named, holds⟩ := Node.eq_singleton_of_unplaced begins
      obtain ⟨mark, rfl⟩ := Node.eq_scalar_of_unplaced named
      rw [if_neg keeps]
      show (take (place none) name (path ++ [some name]) node).bind _ = _
      rw [takes, reads node holds]
      rfl
  rw [readEntries_append, readPart]
  exact goes left ends

theorem readEntries_end {P : σ → Prop} (written : Node.unplacedEntries entries = [])
    (ends : P draft) :
    ∃ last, readEntries document path take draft entries = .ok last ∧ P last := by
  rw [Node.eq_nil_of_unplaced written]
  exact ⟨draft, rfl, ends⟩

theorem readSection_of_unplaced {finish : σ → Reading α} {a : α}
    (same : node.unplaced = .mapping .start .none entries)
    (reads : ∀ inside, Node.unplacedEntries inside = entries →
      ∃ next, readEntries document path take draft inside = .ok next ∧ finish next = .ok a) :
    readSection document path expected take finish draft node = .ok a := by
  obtain ⟨mark, inside, rfl, held⟩ := Node.eq_mapping_of_unplaced same
  obtain ⟨next, read, ends⟩ := reads inside held
  show ((readEntries document path take draft inside).bind finish).mapError _ = _
  rw [read]
  show (finish next).mapError _ = _
  rw [ends]
  rfl

theorem getD_ite {p : Prop} [Decidable p] {a default : β} (left : p → a = default) :
    (if p then none else some a).getD default = a := by
  split
  · rename_i holds
    exact (left holds).symm
  · rfl

theorem readLibrary_of_unplaced {library : String}
    (default : path ++ [some "name"] ∈ omitted → library = Native.defaultLibrary)
    (same : node.unplaced = without omitted path (sectionNode [("name", textNode library)])) :
    readLibrary document path node = .ok library := by
  rw [without_sectionNode] at same
  refine readSection_of_unplaced same fun inside held => ?_
  refine readEntries_field id (readText document (path ++ [some "name"]) "a string") library held
    (fun node => ?_) (fun node same => readText_of_unplaced same) ?_
  · cases readText document (path ++ [some "name"]) "a string" node with
    | ok text => rfl
    | error misfit => rfl
  intro left held
  exact readEntries_end held (congrArg Except.ok (getD_ite default))

theorem readStandalone_of_unplaced {standalone : StandaloneConfig}
    (needed : path ++ [some "address"] ∉ omitted)
    (default : path ++ [some "address_is_unix_socket"] ∈ omitted → standalone.flag = 0)
    (same : node.unplaced = without omitted path (standaloneNode standalone)) :
    readStandalone document path node = .ok standalone := by
  rw [standaloneNode, without_sectionNode] at same
  refine readSection_of_unplaced same fun inside held => ?_
  refine readEntries_field (fun address => (⟨address, none⟩ : StandaloneDraft))
    (readText document (path ++ [some "address"]) "a string") standalone.address held
    (fun node => rfl) (fun node same => readText_of_unplaced same) fun left held => ?_
  refine readEntries_field (fun flag => (⟨_, flag⟩ : StandaloneDraft))
    (readWord document (path ++ [some "address_is_unix_socket"])) standalone.flag held
    (fun node => rfl) (fun node same => readWord_of_unplaced same) fun left held => ?_
  refine readEntries_end held ?_
  rw [if_neg needed]
  show Except.ok _ = _
  rw [getD_ite default]

/-- An entry that stands first only if it has a value: without it, the place says that nothing is
there. -/
theorem readEntries_optional {P : σ → Prop} (place : Option (Option β) → σ)
    (read : Node → Reading (Option β)) (filled : Option β) (shape : β → Node)
    (written : Node.unplacedEntries entries =
      ((filled.map fun b => (name, shape b)).toList.flatMap fun entry =>
        field omitted path entry.1 entry.2) ++ rest)
    (default : path ++ [some name] ∈ omitted → filled = none)
    (takes : ∀ node, take (place none) name (path ++ [some name]) node =
      (once name none (read node)).bind fun b => .ok (place b))
    (reads : ∀ b node, filled = some b →
      node.unplaced = without omitted (path ++ [some name]) (shape b) → read node = .ok (some b))
    (goes : ∀ found left, found.getD none = filled → Node.unplacedEntries left = rest →
      ∃ last, readEntries document path take (place found) left = .ok last ∧ P last) :
    ∃ last, readEntries document path take (place none) entries = .ok last ∧ P last := by
  cases filled with
  | none => exact goes none entries rfl written
  | some b =>
    have kept : path ++ [some name] ∉ omitted := fun omits => nomatch default omits
    have alone : Node.unplacedEntries entries = field omitted path name (shape b) ++ rest := by
      rw [written]
      simp
    refine readEntries_field place read (some b) alone takes (fun node => reads b node rfl) ?_
    intro left held
    rw [if_neg kept]
    exact goes (some (some b)) left rfl held

theorem readOptional_of_ok {read : Node → Reading α} {a : α}
    (resolved : document.resolve node = node)
    (there : readAbsence node = .ok false) (reads : read node = .ok a) :
    readOptional document read node = .ok (some a) := by
  unfold readOptional
  rw [resolved]
  simp only [there, reads]
  rfl

theorem readSearchPathEntry_of_unplaced (same : node.unplaced = textNode text) :
    readOptional document (readText document path expected) node = .ok (some text) := by
  have resolved : document.resolve node = node := by
    obtain ⟨mark, rfl⟩ := Node.eq_scalar_of_unplaced same
    rfl
  exact readOptional_of_ok resolved (readAbsence_of_unplaced same) (readText_of_unplaced same)

theorem readChild_of_unplaced {child : ChildOptions} {directory : String}
    (text : child.scratchDirectory.text? = some directory)
    (executable : path ++ [some "executable"] ∈ omitted → child.executable = defaultExecutable)
    (searchPath : path ++ [some "search_path"] ∈ omitted → child.searchPath = none)
    (scratchDirectory : path ++ [some "scratch_directory"] ∈ omitted →
      child.scratchDirectory = .ofString defaultScratchDirectory)
    (socketStem : path ++ [some "socket_prefix"] ∈ omitted → child.socketStem = defaultSocketStem)
    (same : node.unplaced = without omitted path (childNode child)) :
    readChild document path node = .ok child := by
  have octets := Octets.text?_eq_some_iff.mp text
  have shown : child.scratchDirectory.shown = directory := by
    rw [octets, Octets.shown_ofString]
  have directoryDefault (omits : path ++ [some "scratch_directory"] ∈ omitted) :
      directory = defaultScratchDirectory := by
    have is := Octets.text?_ofString defaultScratchDirectory
    rw [← scratchDirectory omits, text] at is
    exact Option.some.inj is
  rw [childNode, without_sectionNode, shown] at same
  simp only [List.flatMap_append, List.flatMap_cons, List.flatMap_nil, List.nil_append,
    List.append_assoc] at same
  refine readSection_of_unplaced same fun inside held => ?_
  refine readEntries_field (fun executable => (⟨executable, none, none, none⟩ : ChildDraft))
    (readText document (path ++ [some "executable"]) "a string") child.executable held
    (fun node => rfl) (fun node same => readText_of_unplaced same) fun left held => ?_
  refine readEntries_optional (fun found => (⟨_, found, none, none⟩ : ChildDraft))
    (readOptional document (readText document (path ++ [some "search_path"]) "a string"))
    child.searchPath textNode held searchPath (fun node => rfl)
    (fun text node _ same => readSearchPathEntry_of_unplaced same) fun found left is held => ?_
  refine readEntries_field (fun directory => (⟨_, found, directory, none⟩ : ChildDraft))
    (readText document (path ++ [some "scratch_directory"]) "path string") directory held
    (fun node => rfl) (fun node same => readText_of_unplaced same) fun left held => ?_
  refine readEntries_field (fun stem => (⟨_, found, _, stem⟩ : ChildDraft))
    (readText document (path ++ [some "socket_prefix"]) "a string") child.socketStem held
    (fun node => rfl) (fun node same => readText_of_unplaced same) fun left held => ?_
  refine readEntries_end held ?_
  rw [is, getD_ite executable, getD_ite directoryDefault, getD_ite socketStem, ← octets]

theorem readStandaloneEntry_of_unplaced {standalone : StandaloneConfig}
    (needed : path ++ [some "address"] ∉ omitted)
    (default : path ++ [some "address_is_unix_socket"] ∈ omitted → standalone.flag = 0)
    (same : node.unplaced = without omitted path (standaloneNode standalone)) :
    readOptional document (readStandalone document path) node = .ok (some standalone) := by
  have reads : readStandalone document path node = .ok standalone :=
    readStandalone_of_unplaced needed default same
  rw [standaloneNode, without_sectionNode] at same
  obtain ⟨mark, inside, rfl, -⟩ := Node.eq_mapping_of_unplaced same
  exact readOptional_of_ok rfl rfl reads

/-! ### Documents -/

theorem ofDocument_of_unplaced {config : Config} {directory : String}
    (text : config.child.scratchDirectory.text? = some directory)
    (omissible : ∀ path ∈ omitted, Omissible config path)
    (root : document.root.map Node.unplaced = some (without omitted [] config.toNode)) :
    ofDocument document = .ok config := by
  obtain ⟨node, found, same⟩ := Option.map_eq_some_iff.mp root
  have mode : [] ++ [some "mode"] ∉ omitted := omissible _
  have standalone : [some "standalone"] ∉ omitted := omissible _
  have address : [some "standalone", some "address"] ∉ omitted := omissible _
  unfold ofDocument
  rw [found]
  rw [toNode, without_sectionNode] at same
  simp only [List.flatMap_append, List.flatMap_cons, List.flatMap_nil, List.nil_append,
    List.append_assoc] at same
  -- Each step takes one entry off the front and fills its place; the places behind it are still empty,
  -- so no field is found twice.
  refine readSection_of_unplaced same fun inside held => ?_
  refine readEntries_field (fun mode => (⟨mode, none, none, none, none⟩ : Draft))
    (readMode document [some "mode"]) config.mode held
    (fun node => rfl) (fun node same => readMode_of_unplaced same) fun left held => ?_
  refine readEntries_field (fun level => (⟨_, level, none, none, none⟩ : Draft))
    (readText document [some "log_level"] "a string") config.logLevel held
    (fun node => rfl) (fun node same => readText_of_unplaced same) fun left held => ?_
  refine readEntries_field (fun library => (⟨_, _, library, none, none⟩ : Draft))
    (readLibrary document [some "library"]) config.library held
    (fun node => rfl) (fun node same => readLibrary_of_unplaced (omissible _) same)
    fun left held => ?_
  refine readEntries_optional (fun found => (⟨_, _, _, found, none⟩ : Draft))
    (readOptional document (readStandalone document [some "standalone"]))
    config.standalone standaloneNode held (fun omits => absurd omits standalone) (fun node => rfl)
    (fun standalone node given same => readStandaloneEntry_of_unplaced address ?_ same)
    fun found left is held => ?_
  · intro omits
    have default : config.standalone.map (·.flag) = some 0 := omissible _ omits
    rw [given] at default
    exact Option.some.inj default
  refine readEntries_field (fun child => (⟨_, _, _, found, child⟩ : Draft))
    (readChild document [some "hostengine"]) config.child held (fun node => rfl)
    (fun node same => readChild_of_unplaced text (omissible _) (omissible _) (omissible _)
      (omissible _) same) fun left held => ?_
  refine readEntries_end held ?_
  rw [if_neg mode]
  show Except.ok _ = _
  rw [is, getD_ite (omissible _), getD_ite (omissible _), getD_ite (omissible _)]

/-- A text loads as a configuration, or fails for the reason the configuration is invalid, if its
nodes are those that the configuration is written as, up to places and to entries that say what
would be taken anyway. -/
theorem load_of_written {config : Config} {directory source : String} (omitted : List KeyPath)
    (text : config.child.scratchDirectory.text? = some directory)
    (omissible : ∀ path ∈ omitted, Omissible config path)
    (readBack : ((Document.parse? source).bind Document.root).map Node.unplaced =
      some (without omitted [] config.toNode)) :
    (config.validate = .ok () → load source = .ok config) ∧
      ∀ failure, config.validate = .error failure → load source = .error failure := by
  obtain ⟨root, found, same⟩ := Option.map_eq_some_iff.mp readBack
  obtain ⟨document, parsed, isRoot⟩ := Option.bind_eq_some_iff.mp found
  have holds : ofDocument document = .ok config := by
    refine ofDocument_of_unplaced text omissible ?_
    rw [isRoot, Option.map_some, same]
  have loaded : load source = config.validate.map fun _ => config := by
    unfold load parse
    rw [parsed]
    show ((ofDocument document).mapError Failure.misfit).bind validated = _
    rw [holds]
    rfl
  constructor
  · intro valid
    rw [loaded, valid]
    rfl
  · intro failure invalid
    rw [loaded, invalid]
    rfl

/-- What is left of the document is written as `address: 'true'` under `standalone:`, behind the
mode. -/
theorem load_of_written_without_defaults :
    let config : Config := { ofMode .standalone with standalone := some ⟨"true", 0⟩ }
    let omitted : List KeyPath := [[some "log_level"], [some "library"],
      [some "standalone", some "address_is_unix_socket"], [some "hostengine"]]
    (∀ path ∈ omitted, Omissible config path) ∧ config.validate = .ok () ∧
      load (Yaml.Print.document (without omitted [] config.toNode)) = .ok config := by
  intro config omitted
  have text := Octets.text?_ofString defaultScratchDirectory
  have omissible : ∀ path ∈ omitted, Omissible config path := by
    simp [Omissible, config, omitted, ofMode]
  have level : isLogLevel defaultLogLevel = true := by decide +kernel
  have valid : config.validate = .ok () := by
    simp [config, validate, validateSection, validateStandalone, ofMode, level,
      Native.defaultLibrary]
  exact ⟨omissible, valid, (load_of_written omitted text omissible (by decide +kernel)).1 valid⟩

end Config

end HostEngine
