import HostEngine.Yaml.Node
import HostEngine.Yaml.Token.Stream
/-!
Documents from tokens. The readers of nodes and of the entries of collections call one another; each
call lowers a bound that the number of tokens gives.
-/
set_option autoImplicit false

namespace HostEngine.Yaml

/-- The tags that handles stand for, and whether a version was declared. -/
structure Directives where
  handles : List (String × Octets)
  versioned : Bool
  deriving DecidableEq, Repr

namespace Directives

def none : Directives := ⟨[], false⟩

/-- What the two common handles stand for, unless declared otherwise. -/
def common : List (String × Octets) :=
  [("!", .ofString "!"), ("!!", .ofString "tag:yaml.org,2002:")]

/-- Takes in a directive: a version once, of the first generation, and every handle once. -/
def add? (directives : Directives) : Token.Kind → Option Directives
  | .versionDirective major minor =>
    if !directives.versioned && major = 1 && (minor = 1 || minor = 2) then
      some { directives with versioned := true }
    else .none
  | .tagDirective handle stem =>
    if (directives.handles.lookup handle).isSome then .none
    else some { directives with handles := (handle, stem) :: directives.handles }
  | _ => .none

/-- The tag that a handle and a suffix stand for; an empty handle marks a whole tag. -/
def tag? (directives : Directives) (handle : String) (suffix : Octets) : Option Octets :=
  if handle = "" then some suffix
  else ((directives.handles ++ common).lookup handle).map (· ++ suffix)

end Directives

namespace Node

def among (kinds : List Token.Kind) (token : Token) : Bool := kinds.contains token.kind

def properties? (directives : Directives) :
    List Token → Option (Properties × Option Mark × List Token)
  | ⟨.anchor name, mark, _⟩ :: ⟨.tag handle suffix, _, _⟩ :: rest
  | ⟨.tag handle suffix, mark, _⟩ :: ⟨.anchor name, _, _⟩ :: rest =>
    (directives.tag? handle suffix).map fun tag => (⟨some name, some tag⟩, some mark, rest)
  | ⟨.anchor name, mark, _⟩ :: rest => some (⟨some name, none⟩, some mark, rest)
  | ⟨.tag handle suffix, mark, _⟩ :: rest =>
    (directives.tag? handle suffix).map fun tag => (⟨none, some tag⟩, some mark, rest)
  | tokens => some (.none, none, tokens)

mutual

/-- The node that stands next. Block collections are read where `block` allows them, and a sequence
at the indentation of its key where `indentless` does. -/
def read? (directives : Directives) :
    Nat → (block indentless : Bool) → List Token → Option (Node × List Token)
  | 0, _, _, _ => none
  | bound + 1, block, indentless, tokens =>
    match tokens with
    | ⟨.reference name, mark, _⟩ :: rest => some (reference mark name, rest)
    | _ => do
      let (properties, first, tokens) ← properties? directives tokens
      match tokens with
      | [] => none
      | token :: rest =>
        let mark := first.getD token.start
        match token.kind with
        | .scalar style text =>
          some (scalar mark properties style text, rest)
        | .blockEntry =>
          if indentless then do
            let (items, rest) ← indentlessItems? directives bound tokens
            some (sequence mark properties items, rest)
          else if first.isSome then some (scalar mark properties .plain "", tokens)
          else none
        | .flowSequenceStart => do
          let (items, rest) ← flowItems? directives bound true rest
          some (sequence mark properties items, rest)
        | .flowMappingStart => do
          let (entries, rest) ← flowEntries? directives bound true rest
          some (mapping mark properties entries, rest)
        | .blockSequenceStart =>
          if block then do
            let (items, rest) ← blockItems? directives bound rest
            some (sequence mark properties items, rest)
          else if first.isSome then some (scalar mark properties .plain "", tokens)
          else none
        | .blockMappingStart =>
          if block then do
            let (entries, rest) ← blockEntries? directives bound rest
            some (mapping mark properties entries, rest)
          else if first.isSome then some (scalar mark properties .plain "", tokens)
          else none
        | _ => if first.isSome then some (scalar mark properties .plain "", tokens) else none

def blockItems? (directives : Directives) : Nat → List Token → Option (List Node × List Token)
  | 0, _ => none
  | bound + 1, tokens =>
    match tokens with
    | ⟨.blockEntry, _, finish⟩ :: rest =>
      match rest with
      | [] => none
      | token :: _ => do
        let (item, rest) ←
          if among [.blockEntry, .blockEnd] token then some (absent finish, rest)
          else read? directives bound true false rest
        let (items, rest) ← blockItems? directives bound rest
        some (item :: items, rest)
    | ⟨.blockEnd, _, _⟩ :: rest => some ([], rest)
    | _ => none

def indentlessItems? (directives : Directives) :
    Nat → List Token → Option (List Node × List Token)
  | 0, _ => none
  | bound + 1, tokens =>
    match tokens with
    | ⟨.blockEntry, _, finish⟩ :: rest =>
      match rest with
      | [] => none
      | token :: _ => do
        let (item, rest) ←
          if among [.blockEntry, .key, .value, .blockEnd] token then some (absent finish, rest)
          else read? directives bound true false rest
        let (items, rest) ← indentlessItems? directives bound rest
        some (item :: items, rest)
    | tokens => some ([], tokens)

def blockEntries? (directives : Directives) :
    Nat → List Token → Option (List (Node × Node) × List Token)
  | 0, _ => none
  | bound + 1, tokens =>
    match tokens with
    | ⟨.key, _, finish⟩ :: rest => do
      let (key, rest) ← blockSide? directives bound finish rest
      let (value, rest) ←
        match rest with
        | ⟨.value, _, finish⟩ :: rest => blockSide? directives bound finish rest
        | token :: _ => some (absent token.start, rest)
        | [] => none
      let (entries, rest) ← blockEntries? directives bound rest
      some ((key, value) :: entries, rest)
    | ⟨.blockEnd, _, _⟩ :: rest => some ([], rest)
    | _ => none

def blockSide? (directives : Directives) :
    Nat → Mark → List Token → Option (Node × List Token)
  | 0, _, _ => none
  | bound + 1, finish, tokens =>
    match tokens with
    | [] => none
    | token :: _ =>
      if among [.key, .value, .blockEnd] token then some (absent finish, tokens)
      else read? directives bound true true tokens

def flowItems? (directives : Directives) :
    Nat → (first : Bool) → List Token → Option (List Node × List Token)
  | 0, _, _ => none
  | bound + 1, first, tokens =>
    match tokens with
    | ⟨.flowSequenceEnd, _, _⟩ :: rest => some ([], rest)
    | _ => do
      let tokens ←
        if first then some tokens
        else match tokens with
          | ⟨.flowEntry, _, _⟩ :: rest => some rest
          | _ => none
      match tokens with
      | ⟨.flowSequenceEnd, _, _⟩ :: rest => some ([], rest)
      | ⟨.key, mark, _⟩ :: rest => do
        let (key, value, rest) ← flowPair? directives bound rest
        let (items, rest) ← flowItems? directives bound false rest
        some (mapping mark .none [(key, value)] :: items, rest)
      | _ => do
        let (item, rest) ← read? directives bound false false tokens
        let (items, rest) ← flowItems? directives bound false rest
        some (item :: items, rest)

/-- The single entry of a mapping that is an item of a flow sequence, behind its key indicator. A
key left out takes the token in its place with it. -/
def flowPair? (directives : Directives) :
    Nat → List Token → Option (Node × Node × List Token)
  | 0, _ => none
  | bound + 1, tokens => do
    let (key, rest) ←
      match tokens with
      | [] => none
      | token :: rest =>
        if among [.value, .flowEntry, .flowSequenceEnd] token then
          some (absent token.finish, rest)
        else read? directives bound false false tokens
    match rest with
    | ⟨.value, _, _⟩ :: rest =>
      match rest with
      | [] => none
      | token :: _ =>
        if among [.flowEntry, .flowSequenceEnd] token then some (key, absent token.start, rest)
        else do
          let (value, rest) ← read? directives bound false false rest
          some (key, value, rest)
    | token :: _ => some (key, absent token.start, rest)
    | [] => none

def flowEntries? (directives : Directives) :
    Nat → (first : Bool) → List Token → Option (List (Node × Node) × List Token)
  | 0, _, _ => none
  | bound + 1, first, tokens =>
    match tokens with
    | ⟨.flowMappingEnd, _, _⟩ :: rest => some ([], rest)
    | _ => do
      let tokens ←
        if first then some tokens
        else match tokens with
          | ⟨.flowEntry, _, _⟩ :: rest => some rest
          | _ => none
      match tokens with
      | ⟨.flowMappingEnd, _, _⟩ :: rest => some ([], rest)
      | ⟨.key, _, _⟩ :: rest => do
        let (key, rest) ← flowSide? directives bound [.value, .flowEntry, .flowMappingEnd] rest
        let (value, rest) ←
          match rest with
          | ⟨.value, _, _⟩ :: rest =>
            flowSide? directives bound [.flowEntry, .flowMappingEnd] rest
          | token :: _ => some (absent token.start, rest)
          | [] => none
        let (entries, rest) ← flowEntries? directives bound false rest
        some ((key, value) :: entries, rest)
      | _ => do
        let (key, rest) ← read? directives bound false false tokens
        let (value, rest) ←
          match rest with
          | token :: _ => some (absent token.start, rest)
          | [] => none
        let (entries, rest) ← flowEntries? directives bound false rest
        some ((key, value) :: entries, rest)

def flowSide? (directives : Directives) :
    Nat → (ends : List Token.Kind) → List Token → Option (Node × List Token)
  | 0, _, _ => none
  | bound + 1, ends, tokens =>
    match tokens with
    | [] => none
    | token :: _ =>
      if among ends token then some (absent token.start, tokens)
      else read? directives bound false false tokens

end

end Node

namespace Document

def directives? : Directives → List Token → Option (Directives × List Token)
  | _, [] => none
  | directives, token :: rest =>
    match token.kind with
    | .documentStart => some (directives, rest)
    | .versionDirective _ _ | .tagDirective _ _ =>
      (directives.add? token.kind).bind fun directives => directives? directives rest
    | _ => none

/-- Whether the content of a document is left out before this token. -/
def endsContent (token : Token) : Bool :=
  match token.kind with
  | .versionDirective _ _ | .tagDirective _ _ | .documentStart | .documentEnd | .streamEnd => true
  | _ => false

def root? (directives : Directives) (tokens : List Token) : Option (Node × List Token) :=
  match tokens with
  | [] => none
  | token :: _ =>
    if endsContent token then some (.absent token.start, tokens)
    else Node.read? directives (4 * tokens.length + 4) true false tokens

def isOver : List Token → Bool
  | [] => false
  | token :: rest =>
    match token.kind with
    | .documentEnd => isOver rest
    | .streamEnd => true
    | _ => false

def ofTokens? : List Token → Option Document
  | [] => none
  | token :: rest =>
    match token.kind with
    | .streamEnd => some ⟨none, token.start, []⟩
    | .versionDirective _ _ | .tagDirective _ _ | .documentStart => do
      let (directives, rest) ← directives? .none (token :: rest)
      let (root, rest) ← root? directives rest
      if isOver rest then ofRoot? root token.start else none
    | _ => do
      let (root, rest) ← Node.read? .none (4 * rest.length + 8) true false (token :: rest)
      if isOver rest then ofRoot? root token.start else none

/-- The only document of a text; none if the text is not well formed or holds several. -/
def parse? (text : String) : Option Document :=
  (Stream.tokens? text).bind ofTokens?

end Document

end HostEngine.Yaml
