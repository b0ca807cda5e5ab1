import HostEngine.Text.Digits
import HostEngine.Yaml.Token
/-!
Reading scalars in their five styles. Line breaks inside a scalar are folded: a single one becomes a
space, of several the first is dropped. Each reader walks the text with a bound of its length.
-/
set_option autoImplicit false

namespace HostEngine.Yaml.Scalar

/-- Gaps and line breaks between two words of a scalar: the gaps of the current line, the first
break and the breaks after it. -/
structure Fold where
  gaps : List Char
  first : List Char
  others : List Char
  broken : Bool
  deriving DecidableEq, Repr

def Fold.empty : Fold := ⟨[], [], [], false⟩

def Fold.text (fold : Fold) : List Char :=
  if fold.broken then
    if fold.first = ['\n'] then (if fold.others.isEmpty then [' '] else fold.others)
    else fold.first ++ fold.others
  else fold.gaps

/-- Reads gaps and breaks from here on; none at a tab that `tabAllowed` refuses in a later line. -/
def foldFrom? (tabAllowed : Nat → Bool) : Nat → Fold → Cursor → Option (Fold × Cursor)
  | 0, _, _ => none
  | bound + 1, fold, cursor =>
    match cursor.rest with
    | [] => some (fold, cursor)
    | c :: _ =>
      if isGap c then
        if fold.broken then
          if c = '\t' && !tabAllowed cursor.mark.column then none
          else foldFrom? tabAllowed bound fold cursor.step
        else foldFrom? tabAllowed bound { fold with gaps := fold.gaps ++ [c] } cursor.step
      else if isBreak c then
        if fold.broken then
          foldFrom? tabAllowed bound { fold with others := fold.others ++ cursor.lineText }
            cursor.stepLine
        else
          foldFrom? tabAllowed bound ⟨[], cursor.lineText, fold.others, true⟩ cursor.stepLine
      else some (fold, cursor)

def atIndicator (cursor : Cursor) : Bool :=
  cursor.mark.column = 0 && (isTriple '-' cursor.rest || isTriple '.' cursor.rest)

/-! ### Plain scalars -/

def isFlowIndicator (c : Char) : Bool :=
  c = ',' || c = '[' || c = ']' || c = '{' || c = '}'

/-- The word of a plain scalar that stands next; none at a colon that a flow indicator follows. -/
def plainWord? (flow : Bool) : List Char → Option (List Char)
  | [] => some []
  | c :: rest =>
    if isGap c || isBreak c then some []
    else if c = ':' && flow &&
        (match rest with | d :: _ => isFlowIndicator d || d = '?' | [] => false) then none
    else if c = ':' && endsWord rest then some []
    else if flow && isFlowIndicator c then some []
    else (plainWord? flow rest).map (c :: ·)

/-- A plain scalar: its text, the mark behind its last word, whether a line break follows it, and
where reading goes on. -/
structure Plain where
  text : List Char
  finish : Mark
  broken : Bool
  next : Cursor

def plainFrom? (flow : Bool) (indent : Int) :
    Nat → List Char → Mark → Fold → Cursor → Option Plain
  | 0, _, _, _, _ => none
  | bound + 1, text, finish, fold, cursor =>
    if atIndicator cursor || startsWith '#' cursor.rest then
      some ⟨text, finish, fold.broken, cursor⟩
    else do
      let word ← plainWord? flow cursor.rest
      let after := cursor.steps word.length
      let (text, finish, fold) :=
        if word.isEmpty then (text, finish, fold)
        else (text ++ fold.text ++ word, after.mark, Fold.empty)
      match after.rest with
      | c :: _ =>
        if isGap c || isBreak c then do
          let (fold, next) ←
            foldFrom? (fun column => indent ≤ column) (after.rest.length + 1) fold after
          if !flow && (next.mark.column : Int) < indent then
            some ⟨text, finish, fold.broken, next⟩
          else plainFrom? flow indent bound text finish fold next
        else some ⟨text, finish, fold.broken, after⟩
      | [] => some ⟨text, finish, fold.broken, after⟩

def plain? (flow : Bool) (indent : Int) (cursor : Cursor) : Option Plain :=
  plainFrom? flow (indent + 1) (cursor.rest.length + 1) [] cursor.mark .empty cursor

/-! ### Quoted scalars -/

def simpleEscape? : Char → Option Char
  | '0' => some '\x00'
  | 'a' => some '\x07'
  | 'b' => some '\x08'
  | 't' | '\t' => some '\t'
  | 'n' => some '\n'
  | 'v' => some '\x0B'
  | 'f' => some '\x0C'
  | 'r' => some '\r'
  | 'e' => some '\x1B'
  | ' ' => some ' '
  | '\x22' => some '\x22'
  | '/' => some '/'
  | '\\' => some '\\'
  | 'N' => some '\u0085'
  | '_' => some '\u00A0'
  | 'L' => some '\u2028'
  | 'P' => some '\u2029'
  | _ => none

def escapeWidth? : Char → Option Nat
  | 'x' => some 2
  | 'u' => some 4
  | 'U' => some 8
  | _ => none

def hexNumber? : Nat → Nat → List Char → Option Nat
  | 0, value, _ => some value
  | n + 1, value, c :: rest => (hexValue? c).bind fun d => hexNumber? n (value * 16 + d) rest
  | _ + 1, _, [] => none

/-- The character that an escape stands for, given what follows the backslash, and how many
characters that takes. -/
def escape? : List Char → Option (Char × Nat)
  | [] => none
  | c :: rest =>
    match simpleEscape? c with
    | some d => some (d, 1)
    | none => do
      let width ← escapeWidth? c
      let n ← hexNumber? width 0 rest
      if n.isValidChar then some (Char.ofNat n, width + 1) else none

structure Word where
  text : List Char
  next : Cursor
  joined : Bool

def Word.push (c : Char) (word : Word) : Word := { word with text := c :: word.text }

def quotedWord? (single : Bool) : Nat → Cursor → Option Word
  | 0, _ => none
  | bound + 1, cursor =>
    match cursor.rest with
    | [] => some ⟨[], cursor, false⟩
    | c :: rest =>
      if isGap c || isBreak c then some ⟨[], cursor, false⟩
      else if single && c = '\x27' then
        if startsWith '\x27' rest then (quotedWord? single bound (cursor.steps 2)).map (.push c)
        else some ⟨[], cursor, false⟩
      else if !single && c = '\x22' then some ⟨[], cursor, false⟩
      else if !single && c = '\\' then
        if !rest.isEmpty && endsLine rest then some ⟨[], cursor.step.stepLine, true⟩
        else do
          let (d, width) ← escape? rest
          (quotedWord? single bound (cursor.steps (width + 1))).map (.push d)
      else (quotedWord? single bound cursor.step).map (.push c)

def quotedFrom? (single : Bool) : Nat → List Char → Cursor → Option (List Char × Cursor)
  | 0, _, _ => none
  | bound + 1, text, cursor =>
    if atIndicator cursor || cursor.rest.isEmpty then none
    else do
      let word ← quotedWord? single (cursor.rest.length + 1) cursor
      let text := text ++ word.text
      if startsWith (if single then '\x27' else '\x22') word.next.rest then
        some (text, word.next.step)
      else do
        let (fold, next) ← foldFrom? (fun _ => true) (word.next.rest.length + 1)
          ⟨[], [], [], word.joined⟩ word.next
        quotedFrom? single bound (text ++ fold.text) next

def quoted? (single : Bool) (cursor : Cursor) : Option (List Char × Cursor) :=
  quotedFrom? single (cursor.rest.length + 1) [] cursor.step

/-! ### Block scalars -/

/-- What becomes of the line breaks at the end of a block scalar. -/
inductive Chomp where
  | strip
  | clip
  | keep
  deriving DecidableEq, Repr

def chomp? : List Char → Option Chomp
  | '+' :: _ => some .keep
  | '-' :: _ => some .strip
  | _ => none

/-- The indentation indicator that stands next; zero is refused by the outer option. -/
def increment? : List Char → Option (Option Nat)
  | [] => some none
  | c :: _ =>
    match digit? c with
    | some 0 => none
    | some d => some (some d)
    | none => some none

def header? (cursor : Cursor) : Option (Chomp × Option Nat × Cursor) :=
  match chomp? cursor.rest with
  | some chomp => do
    let cursor := cursor.step
    let increment ← increment? cursor.rest
    some (chomp, increment, if increment.isSome then cursor.step else cursor)
  | none => do
    let increment ← increment? cursor.rest
    let cursor := if increment.isSome then cursor.step else cursor
    if increment.isSome then
      match chomp? cursor.rest with
      | some chomp => some (chomp, increment, cursor.step)
      | none => some (.clip, increment, cursor)
    else some (.clip, increment, cursor)

/-- Blank lines before the next line of a block scalar: their breaks, the widest column reached, the
mark behind the last break, and the cursor at the next line's text. An indentation of zero is one
that is not known yet. -/
structure Gap where
  breaks : List Char
  widest : Nat
  finish : Mark
  next : Cursor

def gapFrom? (indent : Nat) : Nat → List Char → Nat → Mark → Cursor → Option Gap
  | 0, _, _, _, _ => none
  | bound + 1, breaks, widest, finish, cursor =>
    let spaces := (cursor.readWhile (· = ' ')).length
    let cursor := cursor.steps
      (if indent = 0 then spaces else min spaces (indent - cursor.mark.column))
    let widest := max widest cursor.mark.column
    if (indent = 0 || cursor.mark.column < indent) && startsWith '\t' cursor.rest then none
    else
      match cursor.rest with
      | c :: _ =>
        if isBreak c then
          gapFrom? indent bound (breaks ++ cursor.lineText) widest cursor.stepLine.mark
            cursor.stepLine
        else some ⟨breaks, widest, finish, cursor⟩
      | [] => some ⟨breaks, widest, finish, cursor⟩

def gap? (indent : Nat) (cursor : Cursor) : Option Gap :=
  gapFrom? indent (cursor.rest.length + 1) [] 0 cursor.mark cursor

/-- Reads lines of a block scalar from here on. `broken` is the break of the line before, `breaks`
those of the blank lines since, `spaced` whether the line before starts with a gap. -/
def blockFrom? (folded : Bool) (indent : Nat) : Nat → List Char → List Char → Bool → Gap →
    Option (List Char × List Char × Gap)
  | 0, _, _, _, _ => none
  | bound + 1, text, broken, spaced, gap =>
    let cursor := gap.next
    if cursor.mark.column = indent && !cursor.rest.isEmpty then
      let gapped := match cursor.rest with | c :: _ => isGap c | [] => false
      let joint :=
        if folded && broken = ['\n'] && !spaced && !gapped then
          (if gap.breaks.isEmpty then [' '] else [])
        else broken
      let line := cursor.readWhile fun c => !isBreak c
      let after := cursor.skipWhile fun c => !isBreak c
      match gap? indent after.stepLine with
      | none => none
      | some next =>
        blockFrom? folded indent bound (text ++ joint ++ gap.breaks ++ line) after.lineText gapped
          next
    else some (text, broken, gap)

/-- The block scalar that stands next, inside a collection indented by `indent`: its text, the mark
where it finishes, and where reading goes on. -/
def block? (folded : Bool) (indent : Int) (cursor : Cursor) :
    Option (List Char × Mark × Cursor) := do
  let (chomp, increment, cursor) ← header? cursor.step
  let cursor ← cursor.finishLine?
  let known : Nat :=
    match increment with
    | some n => if 0 ≤ indent then indent.toNat + n else n
    | none => 0
  let gap ← gap? known cursor
  let width := if known = 0 then max gap.widest (max (indent + 1).toNat 1) else known
  let (text, broken, last) ←
    blockFrom? folded width (cursor.rest.length + 1) [] [] false gap
  let tail :=
    match chomp with
    | .strip => []
    | .clip => broken
    | .keep => broken ++ last.breaks
  some (text ++ tail, last.finish, last.next)

end HostEngine.Yaml.Scalar
