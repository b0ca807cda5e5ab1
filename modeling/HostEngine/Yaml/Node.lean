import HostEngine.Yaml.Token
/-!
The tree of a document. Scalars keep their text and style, since both decide what they stand for;
aliases stay in the tree and are looked up in the document.
-/
set_option autoImplicit false

namespace HostEngine.Yaml

/-- What may stand before a node: a name to refer to it by, and a tag. -/
structure Properties where
  anchor : Option String
  tag : Option Octets
  deriving DecidableEq, Repr

def Properties.none : Properties := ⟨.none, .none⟩

inductive Node where
  | reference (mark : Mark) (name : String)
  | scalar (mark : Mark) (properties : Properties) (style : Style) (text : String)
  | sequence (mark : Mark) (properties : Properties) (items : List Node)
  | mapping (mark : Mark) (properties : Properties) (entries : List (Node × Node))
  deriving Repr

namespace Node

mutual

def decEq : (a b : Node) → Decidable (a = b)
  | reference mark name, reference mark' name' =>
    decidable_of_iff (mark = mark' ∧ name = name') (by simp)
  | scalar mark properties style text, scalar mark' properties' style' text' =>
    decidable_of_iff (mark = mark' ∧ properties = properties' ∧ style = style' ∧ text = text')
      (by simp)
  | sequence mark properties items, sequence mark' properties' items' =>
    have := decEqItems items items'
    decidable_of_iff (mark = mark' ∧ properties = properties' ∧ items = items') (by simp)
  | mapping mark properties entries, mapping mark' properties' entries' =>
    have := decEqEntries entries entries'
    decidable_of_iff (mark = mark' ∧ properties = properties' ∧ entries = entries') (by simp)
  | reference .., scalar .. | reference .., sequence .. | reference .., mapping ..
  | scalar .., reference .. | scalar .., sequence .. | scalar .., mapping ..
  | sequence .., reference .. | sequence .., scalar .. | sequence .., mapping ..
  | mapping .., reference .. | mapping .., scalar .. | mapping .., sequence .. => isFalse nofun

def decEqItems : (a b : List Node) → Decidable (a = b)
  | [], [] => isTrue rfl
  | item :: rest, item' :: rest' =>
    have := decEq item item'
    have := decEqItems rest rest'
    decidable_of_iff (item = item' ∧ rest = rest') (by simp)
  | [], _ :: _ | _ :: _, [] => isFalse nofun

def decEqEntries : (a b : List (Node × Node)) → Decidable (a = b)
  | [], [] => isTrue rfl
  | (key, value) :: rest, (key', value') :: rest' =>
    have := decEq key key'
    have := decEq value value'
    have := decEqEntries rest rest'
    decidable_of_iff ((key = key' ∧ value = value') ∧ rest = rest') (by simp)
  | [], _ :: _ | _ :: _, [] => isFalse nofun

end

instance : DecidableEq Node := decEq

def mark : Node → Mark
  | reference mark _ | scalar mark _ _ _ | sequence mark _ _ | mapping mark _ _ => mark

def absent (mark : Mark) : Node := scalar mark .none .plain ""

/-- A name given to a node, or a use of such a name. -/
inductive Reference where
  | named (name : String) (node : Node)
  | used (name : String) (mark : Mark)

def naming (properties : Properties) (node : Node) : List Reference :=
  match properties.anchor with
  | some name => [.named name node]
  | none => []

mutual

def references : Node → List Reference
  | reference mark name => [.used name mark]
  | scalar mark properties style text => naming properties (scalar mark properties style text)
  | sequence mark properties items =>
    naming properties (sequence mark properties items) ++ itemReferences items
  | mapping mark properties entries =>
    naming properties (mapping mark properties entries) ++ entryReferences entries

def itemReferences : List Node → List Reference
  | [] => []
  | item :: rest => references item ++ itemReferences rest

def entryReferences : List (Node × Node) → List Reference
  | [] => []
  | (key, value) :: rest => references key ++ references value ++ entryReferences rest

end

end Node

/-- A document: its root, none if the text holds nothing, and the node that every alias in it stands
for, by the place of the alias. -/
structure Document where
  root : Option Node
  finish : Mark
  targets : List (Mark × Node)

namespace Document

/-- Names known so far with their numbers, the nodes by number with the latest first, and the uses
of names found so far. -/
structure Names where
  numbers : List (String × Nat)
  nodes : List (Nat × Node)
  uses : List (Mark × Nat)

def Names.size (names : Names) : Nat := (names.numbers.map (·.1)).eraseDups.length

/-- Takes in one reference. A name gets as its number the count of the names before it, also when it
is given again; a use must follow the name. -/
def Names.add? (names : Names) : Node.Reference → Option Names
  | .named name node =>
    some { names with
      numbers := (name, names.size) :: names.numbers,
      nodes := (names.size, node) :: names.nodes }
  | .used name mark =>
    (names.numbers.lookup name).map fun number =>
      { names with uses := (mark, number) :: names.uses }

def ofRoot? (root : Node) (finish : Mark) : Option Document := do
  let names ← root.references.foldlM Names.add? ⟨[], [], []⟩
  some ⟨some root, finish,
    names.uses.filterMap fun (mark, number) => (names.nodes.lookup number).map (mark, ·)⟩

/-- The node that a node stands for: an alias for the node of its name, any other for itself. -/
def resolve (document : Document) (node : Node) : Node :=
  match node with
  | .reference mark _ => (document.targets.lookup mark).getD node
  | .scalar .. | .sequence .. | .mapping .. => node

end Document

end HostEngine.Yaml
