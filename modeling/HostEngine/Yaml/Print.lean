import HostEngine.Text.Digits
import HostEngine.Yaml.Meaning
/-!
Documents as text. A text is written plain where it reads back as itself, else in single quotes,
else in double quotes; one with line feeds is written as a literal block where a block can hold it.
Lines are never broken.
-/
set_option autoImplicit false

namespace HostEngine.Yaml.Print

def isPrintable (c : Char) : Bool :=
  let n := c.toNat
  n = 0xA || (0x20 ≤ n && n ≤ 0x7E) || (0xA0 ≤ n && n ≤ 0xFFFD && n ≠ 0xFEFF) || 0x10000 ≤ n

def isIndicator (c : Char) : Bool :=
  "#,[]\x7b\x7d&*!|>'\"%@".toList.contains c || c = '\x60'

/-- What decides in which styles a text can be written. -/
structure Shape where
  indicator : Bool
  broken : Bool
  unprintable : Bool
  edgeSpace : Bool
  edgeBreak : Bool
  lastSpace : Bool
  breakSpace : Bool
  spaceBreak : Bool
  deriving DecidableEq, Repr

def marksFirst (c : Char) (rest : List Char) : Bool :=
  isIndicator c || ((c = '?' || c = ':' || c = '-') && endsWord rest)

def marksLater : Char → List Char → Bool
  | _, [] => false
  | before, c :: rest =>
    (c = ':' && endsWord rest) || (c = '#' && (isGap before || isBreak before)) ||
      marksLater c rest

def hasPair (p q : Char → Bool) : List Char → Bool
  | c :: d :: rest => (p c && q d) || hasPair p q (d :: rest)
  | _ => false

def shape (cs : List Char) : Shape :=
  let isSpace (c : Char) : Bool := c = ' '
  let first (p : Char → Bool) : Bool := cs.head?.any p
  let last (p : Char → Bool) : Bool := cs.getLast?.any p
  { indicator :=
      cs.take 3 = ['-', '-', '-'] || cs.take 3 = ['.', '.', '.'] ||
        (match cs with
        | c :: rest => marksFirst c rest || marksLater c rest
        | [] => false)
    broken := cs.any isBreak
    unprintable := cs.any fun c => !isPrintable c
    edgeSpace := first isSpace || last isSpace
    edgeBreak := first isBreak || last isBreak
    lastSpace := last isSpace
    breakSpace := hasPair isBreak isSpace cs
    spaceBreak := hasPair isSpace isBreak cs }

namespace Shape

def allowsPlain (s : Shape) : Bool :=
  !(s.indicator || s.broken || s.unprintable || s.edgeSpace || s.edgeBreak || s.breakSpace ||
    s.spaceBreak)

def allowsSingle (s : Shape) : Bool := !(s.breakSpace || s.spaceBreak || s.unprintable)

def allowsBlock (s : Shape) : Bool := !(s.lastSpace || s.spaceBreak || s.unprintable)

end Shape

def styleOf (text : String) : Style :=
  let s := shape text.toList
  if text.toList.contains '\n' then (if s.allowsBlock then .literal else .doubleQuoted)
  else if Meaning.ofText text = .text && !Meaning.isZeroLed text.toList && s.allowsPlain then
    .plain
  else if s.allowsSingle then .singleQuoted
  else .doubleQuoted

def indentation (column : Nat) : List Char := List.replicate column ' '

/-- The characters between single quotes. After a line break the text goes on at `column`. -/
def singleFrom (column : Nat) : Bool → List Char → List Char
  | broken, [] => if broken then indentation column else []
  | broken, c :: rest =>
    if isBreak c then c :: singleFrom column true rest
    else
      (if broken && c ≠ ' ' then indentation column else []) ++
        (if c = '\x27' then ['\x27', '\x27'] else [c]) ++
        singleFrom column (broken && c = ' ') rest

def simpleEscape? (c : Char) : Option Char :=
  match c.toNat with
  | 0x00 => some '0'
  | 0x07 => some 'a'
  | 0x08 => some 'b'
  | 0x09 => some 't'
  | 0x0A => some 'n'
  | 0x0B => some 'v'
  | 0x0C => some 'f'
  | 0x0D => some 'r'
  | 0x1B => some 'e'
  | 0x22 => some '\x22'
  | 0x5C => some '\\'
  | 0x85 => some 'N'
  | 0xA0 => some '_'
  | 0x2028 => some 'L'
  | 0x2029 => some 'P'
  | _ => none

def doubleChar (c : Char) : List Char :=
  if isPrintable c && !isBreak c && c ≠ '\x22' && c ≠ '\\' then [c]
  else
    match simpleEscape? c with
    | some letter => ['\\', letter]
    | none =>
      if c.toNat ≤ 0xFF then '\\' :: 'x' :: upperHex 2 c.toNat
      else if c.toNat ≤ 0xFFFF then '\\' :: 'u' :: upperHex 4 c.toNat
      else '\\' :: 'U' :: upperHex 8 c.toNat

/-- What follows the bar of a literal block: the indentation, if the text begins with a space or a
break, and what becomes of the breaks at its end. -/
def literalHints (cs : List Char) : List Char :=
  (if cs.head?.any (fun c => c = ' ' || isBreak c) then ['2'] else []) ++
    (match cs.reverse with
    | [] => ['-']
    | [c] => if isBreak c then ['+'] else ['-']
    | c :: d :: _ => if !isBreak c then ['-'] else if isBreak d then ['+'] else [])

def literalFrom (column : Nat) : Bool → List Char → List Char
  | _, [] => []
  | fresh, c :: rest =>
    if isBreak c then c :: literalFrom column true rest
    else (if fresh then indentation column else []) ++ c :: literalFrom column false rest

/-- A scalar behind its key, up to and with the end of the line. -/
def scalar (column : Nat) (style : Style) (text : String) : List Char :=
  let cs := text.toList
  match style with
  | .plain => ' ' :: cs ++ ['\n']
  | .singleQuoted => ' ' :: '\x27' :: singleFrom column false cs ++ ['\x27', '\n']
  | .doubleQuoted => ' ' :: '\x22' :: cs.flatMap doubleChar ++ ['\x22', '\n']
  | .literal | .folded =>
    let lines := literalFrom column true cs
    ' ' :: '|' :: literalHints cs ++ '\n' :: lines ++
      (if cs.getLast?.any isBreak then [] else ['\n'])

mutual

/-- A node behind its key, indented deeper than `column`. Collections other than mappings with
scalar keys are not written. -/
def behindKey (column : Nat) : Node → List Char
  | .scalar _ _ style text => scalar (column + 2) style text
  | .mapping _ _ entries => '\n' :: fields (column + 2) entries
  | .sequence .. | .reference .. => ['\n']

def fields (column : Nat) : List (Node × Node) → List Char
  | [] => []
  | (key, value) :: rest =>
    (match key with
    | .scalar _ _ _ text => indentation column ++ text.toList ++ [':']
    | _ => []) ++ behindKey column value ++ fields column rest

end

def document : Node → String
  | .mapping _ _ entries => String.ofList (fields 0 entries)
  | .scalar _ _ style text => String.ofList ((scalar 2 style text).drop 1)
  | .sequence .. | .reference .. => ""

end HostEngine.Yaml.Print
