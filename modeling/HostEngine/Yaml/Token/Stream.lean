import HostEngine.Yaml.Token.Tag
import HostEngine.Yaml.Token.Scalar
/-!
The tokens of a document text. Indentation is turned into tokens that open and close block
collections. A key is known as such only at the colon behind it, so its token is inserted where the
key began: such a beginning is remembered as a candidate until the line or 1024 characters are over.
-/
set_option autoImplicit false

namespace HostEngine.Yaml.Stream

/-- Where a key may have begun: the number of tokens before it, its mark, and whether its place
makes it a key for certain. -/
structure Candidate where
  number : Nat
  mark : Mark
  required : Bool
  deriving DecidableEq, Repr

/-- The state of reading tokens. `tokens` holds the last token first. `candidates` has an entry for
the block context and one for every open flow collection, the innermost first. -/
structure State where
  cursor : Cursor
  tokens : List Token
  count : Nat
  indent : Int
  outer : List Int
  candidates : List (Option Candidate)
  keyAllowed : Bool

def State.start (cs : List Char) : State := ⟨.ofText cs, [], 0, -1, [], [none], true⟩

namespace State

def inFlow (s : State) : Bool := 1 < s.candidates.length

def push (s : State) (token : Token) : State :=
  { s with tokens := token :: s.tokens, count := s.count + 1 }

def insert (s : State) (number : Nat) (token : Token) : State :=
  let later := s.count - number
  { s with tokens := s.tokens.take later ++ token :: s.tokens.drop later, count := s.count + 1 }

/-- Steps over gaps, comments and line breaks between tokens. A tab counts as a gap where no key can
begin; a new line outside flow collections allows a key again. -/
def skipBlank : Nat → State → State
  | 0, s => s
  | bound + 1, s =>
    let cursor :=
      if s.cursor.mark.column = 0 && startsWith '\uFEFF' s.cursor.rest then s.cursor.step
      else s.cursor
    let cursor := cursor.skipWhile fun c => c = ' ' || ((s.inFlow || !s.keyAllowed) && c = '\t')
    let cursor := cursor.skipComment
    match cursor.rest with
    | c :: _ =>
      if isBreak c then
        skipBlank bound
          { s with cursor := cursor.stepLine, keyAllowed := s.keyAllowed || !s.inFlow }
      else { s with cursor }
    | [] => { s with cursor }

def isStale (mark : Mark) (candidate : Candidate) : Bool :=
  candidate.mark.line < mark.line || candidate.mark.index + 1024 < mark.index

def reachable? (mark : Mark) : List (Option Candidate) → Option (List (Option Candidate))
  | [] => some []
  | none :: rest => (reachable? mark rest).map (none :: ·)
  | some candidate :: rest =>
    if isStale mark candidate then
      if candidate.required then none else (reachable? mark rest).map (none :: ·)
    else (reachable? mark rest).map (some candidate :: ·)

def dropStale? (s : State) : Option State :=
  (reachable? s.cursor.mark s.candidates).map fun candidates => { s with candidates }

def unrollFrom (column : Int) (mark : Mark) : List Int → State → State
  | [], s => s
  | previous :: outer, s =>
    if column < s.indent then
      unrollFrom column mark outer
        { s.push ⟨.blockEnd, mark, mark⟩ with indent := previous, outer }
    else s

def unroll (s : State) (column : Int) : State :=
  if s.inFlow then s else unrollFrom column s.cursor.mark s.outer s

/-- Opens a block collection at `column`, unless it is open already. -/
def roll (s : State) (column : Nat) (number : Nat) (kind : Token.Kind) (mark : Mark) : State :=
  if s.inFlow then s
  else if s.indent < column then
    { s.insert number ⟨kind, mark, mark⟩ with indent := column, outer := s.indent :: s.outer }
  else s

/-- Forgets the innermost candidate; none if it is required. -/
def dropCandidate? (s : State) : Option State :=
  match s.candidates with
  | some candidate :: rest =>
    if candidate.required then none else some { s with candidates := none :: rest }
  | none :: _ | [] => some s

def markCandidate? (s : State) : Option State :=
  if s.keyAllowed then do
    let s ← s.dropCandidate?
    some { s with
      candidates :=
        some ⟨s.count, s.cursor.mark, !s.inFlow && s.indent = (s.cursor.mark.column : Int)⟩ ::
          s.candidates.drop 1 }
  else some s

def take (s : State) (width : Nat) (kind : Token.Kind) : State :=
  let next := s.cursor.steps width
  { s.push ⟨kind, s.cursor.mark, next.mark⟩ with cursor := next }

def takeTo (s : State) (kind : Token.Kind) (finish : Mark) (next : Cursor) : State :=
  { s.push ⟨kind, s.cursor.mark, finish⟩ with cursor := next }

def finish? (s : State) : Option State := do
  let mark := s.cursor.mark
  let mark := if mark.column = 0 then mark else ⟨mark.index, mark.line + 1, 0⟩
  let s := { s with cursor := ⟨[], mark⟩ }
  let s ← (s.unroll (-1)).dropCandidate?
  some { s.push ⟨.streamEnd, mark, mark⟩ with keyAllowed := false }

def directive? (s : State) : Option State := do
  let s ← (s.unroll (-1)).dropCandidate?
  let (token, next) ← Tag.directive? s.cursor
  some { s.push token with cursor := next, keyAllowed := false }

def indicator? (s : State) (kind : Token.Kind) : Option State := do
  let s ← (s.unroll (-1)).dropCandidate?
  some { s.take 3 kind with keyAllowed := false }

def openFlow? (s : State) (kind : Token.Kind) : Option State := do
  let s ← s.markCandidate?
  some { s.take 1 kind with candidates := none :: s.candidates, keyAllowed := true }

def closeFlow? (s : State) (kind : Token.Kind) : Option State := do
  let s ← s.dropCandidate?
  let candidates := if s.inFlow then s.candidates.drop 1 else s.candidates
  some { s.take 1 kind with candidates, keyAllowed := false }

def flowEntry? (s : State) : Option State := do
  let s ← s.dropCandidate?
  some { s.take 1 .flowEntry with keyAllowed := true }

def rollHere? (s : State) (kind : Token.Kind) : Option State :=
  if s.inFlow then some s
  else if s.keyAllowed then some (s.roll s.cursor.mark.column s.count kind s.cursor.mark)
  else none

def blockEntry? (s : State) : Option State := do
  let s ← s.rollHere? .blockSequenceStart
  let s ← s.dropCandidate?
  some { s.take 1 .blockEntry with keyAllowed := true }

def key? (s : State) : Option State := do
  let s ← s.rollHere? .blockMappingStart
  let s ← s.dropCandidate?
  some { s.take 1 .key with keyAllowed := !s.inFlow }

def value? (s : State) : Option State :=
  match s.candidates with
  | some candidate :: rest =>
    let s := s.insert candidate.number ⟨.key, candidate.mark, candidate.mark⟩
    let s := s.roll candidate.mark.column candidate.number .blockMappingStart candidate.mark
    some { { s with candidates := none :: rest }.take 1 .value with keyAllowed := false }
  | none :: _ | [] => do
    let s ← s.rollHere? .blockMappingStart
    some { s.take 1 .value with keyAllowed := !s.inFlow }

def endsAnchor : List Char → Bool
  | [] => true
  | c :: _ => isGap c || isBreak c || "?:,]\x7d%@".toList.contains c || c = '\x60'

def anchor? (s : State) (kind : String → Token.Kind) : Option State := do
  let s ← s.markCandidate?
  let name := s.cursor.step.readWhile isNameChar
  let next := s.cursor.step.skipWhile isNameChar
  if name.isEmpty || !endsAnchor next.rest then none
  else some { s.takeTo (kind (String.ofList name)) next.mark next with keyAllowed := false }

def tag? (s : State) : Option State := do
  let s ← s.markCandidate?
  let (kind, next) ← Tag.read? s.inFlow s.cursor
  some { s.takeTo kind next.mark next with keyAllowed := false }

def blockScalar? (s : State) (style : Style) : Option State := do
  let s ← s.dropCandidate?
  let (text, finish, next) ← Scalar.block? (style = .folded) s.indent s.cursor
  some { s.takeTo (.scalar style (String.ofList text)) finish next with keyAllowed := true }

def quotedScalar? (s : State) (style : Style) : Option State := do
  let s ← s.markCandidate?
  let (text, next) ← Scalar.quoted? (style = .singleQuoted) s.cursor
  some { s.takeTo (.scalar style (String.ofList text)) next.mark next with keyAllowed := false }

def plainScalar? (s : State) : Option State := do
  let s ← s.markCandidate?
  let scalar ← Scalar.plain? s.inFlow s.indent s.cursor
  some { s.takeTo (.scalar .plain (String.ofList scalar.text)) scalar.finish scalar.next with
    keyAllowed := scalar.broken }

def beginsPlain (flow : Bool) (c : Char) (rest : List Char) : Bool :=
  if c = '-' then !(match rest with | d :: _ => isGap d | [] => false)
  else if c = '?' || c = ':' then !flow && !endsWord rest
  else !(",[]\x7b\x7d#&*!|>'\"%@".toList.contains c || c = '\x60' || isGap c || isBreak c)

def next? (s : State) : Option State := do
  let s ← (s.skipBlank (s.cursor.rest.length + 1)).dropStale?
  let s := s.unroll s.cursor.mark.column
  let flow := s.inFlow
  match s.cursor.rest with
  | [] => s.finish?
  | c :: rest =>
    let first := s.cursor.mark.column = 0
    if first && c = '%' then s.directive?
    else if first && isTriple '-' (c :: rest) then s.indicator? .documentStart
    else if first && isTriple '.' (c :: rest) then s.indicator? .documentEnd
    else if c = '[' then s.openFlow? .flowSequenceStart
    else if c = '{' then s.openFlow? .flowMappingStart
    else if c = ']' then s.closeFlow? .flowSequenceEnd
    else if c = '}' then s.closeFlow? .flowMappingEnd
    else if c = ',' then s.flowEntry?
    else if c = '-' && endsWord rest then s.blockEntry?
    else if c = '?' && (flow || endsWord rest) then s.key?
    else if c = ':' && (flow || endsWord rest) then s.value?
    else if c = '*' then s.anchor? .reference
    else if c = '&' then s.anchor? .anchor
    else if c = '!' then s.tag?
    else if c = '|' && !flow then s.blockScalar? .literal
    else if c = '>' && !flow then s.blockScalar? .folded
    else if c = '\x27' then s.quotedScalar? .singleQuoted
    else if c = '\x22' then s.quotedScalar? .doubleQuoted
    else if beginsPlain flow c rest then s.plainScalar?
    else none

def readAll? : Nat → State → Option (List Token)
  | 0, _ => none
  | bound + 1, s => do
    let s ← s.next?
    match s.tokens with
    | ⟨.streamEnd, _, _⟩ :: _ => some s.tokens.reverse
    | _ => readAll? bound s

end State

def isAllowed (c : Char) : Bool :=
  let n := c.toNat
  n = 0x9 || n = 0xA || n = 0xD || (0x20 ≤ n && n ≤ 0x7E) || n = 0x85 ||
    (0xA0 ≤ n && n ≤ 0xD7FF) || (0xE000 ≤ n && n ≤ 0xFFFD) || 0x10000 ≤ n

/-- The tokens of a text, ending in the one for its end; none if it is not well formed. -/
def tokens? (text : String) : Option (List Token) :=
  let cs := text.toList
  if cs.all isAllowed then (State.start cs).readAll? (cs.length + 2) else none

end HostEngine.Yaml.Stream
