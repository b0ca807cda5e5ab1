import HostEngine.Text.Alphabetic
import HostEngine.Text.Numeric
import HostEngine.Text.Blank
import HostEngine.Text.Digits
/-!
Regular expressions that a log directive may demand of a field's value. No event of the program has
such a field, so nothing is ever matched; what counts is which texts are expressions at all.

An expression is read from left to right. What its groups may change on the way is kept in a
`Setting`, and a `Reader` holds the groups that are open.
-/
set_option autoImplicit false

namespace HostEngine.Log.Pattern

/-- What flags change: whether letters match in either case, whether classes are those of Unicode,
and whether blanks between the parts are skipped. -/
structure Setting where
  foldsCase : Bool
  unicode : Bool
  spaced : Bool
  deriving DecidableEq, Repr

def Setting.initial : Setting := ⟨false, true, false⟩

def flags : List Char := "imsUuRx".toList

/-- Sets a flag; those that do not bear on what is an expression are passed over. -/
def Setting.set (setting : Setting) (flag : Char) (value : Bool) : Setting :=
  match flag with
  | 'i' => { setting with foldsCase := value }
  | 'u' => { setting with unicode := value }
  | 'x' => { setting with spaced := value }
  | _ => setting

/-- Without the blanks and the comments that a spaced expression begins with. -/
def skipSpace (comment : Bool) : List Char → List Char
  | [] => []
  | c :: rest =>
    if comment then skipSpace (c ≠ '\n') rest
    else if isBlank c then skipSpace false rest
    else if c = '#' then skipSpace true rest
    else c :: rest

def Setting.trim (setting : Setting) (text : List Char) : List Char :=
  if setting.spaced then skipSpace false text else text

/-! ### Single characters and escapes -/

/-- What matches without being put together: a character, given as itself or by the number of its
octet, a named class or its complement, and the edge of a word or of the text. -/
inductive Atom where
  | literal (c : Char) (octet : Bool)
  | named (complement : Bool)
  | wordEdge
  | textEdge
  deriving DecidableEq, Repr

/-- Whether an atom can stand by itself. Tables of cases, classes and words beyond ASCII are not at
hand, and no match may split a character. -/
def Atom.stands (setting : Setting) : Atom → Bool
  | literal c octet =>
    if setting.unicode then !setting.foldsCase else !octet || c.toNat < 0x80
  | named complement => !setting.unicode && !complement
  | wordEdge => !setting.unicode
  | textEdge => true

def Atom.standsInClass (setting : Setting) : Atom → Bool
  | literal c _ => setting.unicode || c.toNat < 0x80
  | named complement => !setting.unicode && !complement
  | wordEdge | textEdge => false

def hexadecimal? : Nat → Nat → List Char → Option (Nat × List Char)
  | 0, value, rest => some (value, rest)
  | count + 1, value, c :: rest => do
    let digit ← hexValue? c
    hexadecimal? count (value * 16 + digit) rest
  | _ + 1, _, [] => none

def numbered? (octet : Bool) (count : Nat) (text : List Char) : Option (Atom × List Char) := do
  let (n, rest) ← hexadecimal? count 0 text
  if n.isValidChar then some (.literal (Char.ofNat n) octet, rest) else none

/-- What a backslash and the characters behind it stand for. Digits and the other letters stand for
nothing, nor does what is not ASCII. -/
def escape? : List Char → Option (Atom × List Char)
  | [] => none
  | c :: rest =>
    match c with
    | 'x' => numbered? true 2 rest
    | 'u' => numbered? false 4 rest
    | 'U' => numbered? false 8 rest
    | 'd' | 's' | 'w' => some (.named false, rest)
    | 'D' | 'S' | 'W' => some (.named true, rest)
    | 'b' | 'B' | '<' | '>' => some (.wordEdge, rest)
    | 'A' | 'z' => some (.textEdge, rest)
    | 'a' | 'f' | 't' | 'n' | 'r' | 'v' => some (.literal c false, rest)
    | _ => if c.toNat < 0x80 && !c.isAlphanum then some (.literal c false, rest) else none

def atom? : List Char → Option (Atom × List Char)
  | [] => none
  | '\\' :: rest => escape? rest
  | c :: rest => some (.literal c false, rest)

/-! ### Bracketed classes -/

def classNames : List String :=
  ["alnum", "alpha", "ascii", "blank", "cntrl", "digit", "graph", "lower", "print", "punct",
    "space", "upper", "word", "xdigit"]

def behindNamedClass? (text : List Char) : Option (List Char) :=
  match text with
  | ':' :: rest =>
    let rest := if rest.head? = some '^' then rest.tail else rest
    let name := rest.takeWhile (· ≠ ':')
    match rest.dropWhile (· ≠ ':') with
    | ':' :: ']' :: after => if classNames.contains (String.ofList name) then some after else none
    | _ => none
  | _ => none

/-- What follows the start of a class: a sign that it is a complement, then hyphens that stand for
themselves, or a closing bracket that does. A complement can match beyond ASCII. -/
def behindClassStart? (setting : Setting) (text : List Char) : Option (List Char) :=
  let text := setting.trim text
  if text.head? = some '^' && !setting.unicode then none
  else
    let text := if text.head? = some '^' then setting.trim text.tail else text
    match text with
    | '-' :: _ => some (text.dropWhile (· = '-'))
    | ']' :: rest => some rest
    | _ => some text

def behindClassItem? (setting : Setting) (text : List Char) : Option (List Char) := do
  let (first, rest) ← atom? text
  if !first.standsInClass setting then none
  else
    match setting.trim rest with
    | '-' :: after =>
      let after := setting.trim after
      if after.head? = some ']' || after.head? = some '-' then some ('-' :: after)
      else do
        let (last, rest) ← atom? after
        match first, last with
        | .literal low _, .literal high _ =>
          if low ≤ high && last.standsInClass setting then some rest else none
        | _, _ => none
    | rest => some rest

/-- What follows a class, from inside it on. The first argument bounds the steps, and the second
counts the classes around this one. -/
def behindClass? (setting : Setting) : Nat → Nat → List Char → Option (List Char)
  | 0, _, _ => none
  | bound + 1, depth, text =>
    match setting.trim text with
    | [] => none
    | ']' :: rest => if depth = 0 then some rest else behindClass? setting bound (depth - 1) rest
    | '[' :: rest =>
      match behindNamedClass? rest with
      | some after => behindClass? setting bound depth after
      | none => (behindClassStart? setting rest).bind (behindClass? setting bound (depth + 1))
    | '&' :: '&' :: rest | '-' :: '-' :: rest | '~' :: '~' :: rest =>
      behindClass? setting bound depth rest
    | text => (behindClassItem? setting text).bind (behindClass? setting bound depth)

/-! ### Groups -/

inductive Opening where
  | group (setting : Setting) (name : List Char)
  /-- No group, but a setting for what is left of the group around. -/
  | change (setting : Setting)
  deriving Repr

/-- The setting that flags give and the mark behind them. Every flag stands once, the sign that
clears flags stands once, and a flag must follow it. -/
def flagsFrom? (setting : Setting) (seen : List Char) (cleared dangling : Bool) :
    List Char → Option (Opening × List Char)
  | [] => none
  | c :: rest =>
    if c = ':' then if dangling then none else some (.group setting [], rest)
    else if c = ')' then
      if dangling || seen = [] then none else some (.change setting, rest)
    else if c = '-' then if cleared then none else flagsFrom? setting seen true true rest
    else if flags.contains c && !seen.contains c then
      flagsFrom? (setting.set c !cleared) (c :: seen) cleared false rest
    else none

def beginsName (c : Char) : Bool := c = '_' || isAlphabetic c

def continuesName (c : Char) : Bool :=
  beginsName c || isNumeric c || c = '.' || c = '[' || c = ']'

def namedGroup? (setting : Setting) (text : List Char) : Option (Opening × List Char) :=
  let name := text.takeWhile (· ≠ '>')
  match name, text.dropWhile (· ≠ '>') with
  | first :: others, _ :: rest =>
    if beginsName first && others.all continuesName then some (.group setting name, rest) else none
  | _, _ => none

/-- What stands behind an opening parenthesis. Groups that look around are not supported. -/
def opening? (setting : Setting) (text : List Char) : Option (Opening × List Char) :=
  match setting.trim text with
  | '?' :: '=' :: _ | '?' :: '!' :: _ | '?' :: '<' :: '=' :: _ | '?' :: '<' :: '!' :: _ => none
  | '?' :: 'P' :: '<' :: rest | '?' :: '<' :: rest => namedGroup? setting rest
  | '?' :: rest => flagsFrom? setting [] false false rest
  | text => some (.group setting [], text)

/-! ### Expressions -/

/-- How far an expression is read: the setting, those to go back to behind the open groups, the
names that groups have, and whether something stands here that can be repeated. -/
structure Reader where
  setting : Setting
  outer : List Setting
  names : List (List Char)
  repeatable : Bool

def Reader.passed (reader : Reader) : Reader := { reader with repeatable := true }

def Reader.enter? (reader : Reader) : Opening → Option Reader
  | .change setting => some { reader with setting, repeatable := false }
  | .group setting name =>
    if name ≠ [] && reader.names.contains name then none
    else
      let names := if name = [] then reader.names else name :: reader.names
      some ⟨setting, reader.setting :: reader.outer, names, false⟩

def Reader.leave? (reader : Reader) : Option Reader :=
  match reader.outer with
  | [] => none
  | setting :: outer => some { reader with setting, outer, repeatable := true }

/-- Whether a repetition that stands here leaves a match whole; those with counts are never closed,
because a directive ends a field at the first closing brace. -/
def Reader.advance? (reader : Reader) : List Char → Option (Reader × List Char)
  | [] => none
  | c :: rest =>
    match c with
    | '(' => do
      let (opening, rest) ← opening? reader.setting rest
      let reader ← reader.enter? opening
      some (reader, rest)
    | ')' => reader.leave?.map (·, rest)
    | '|' => some ({ reader with repeatable := false }, rest)
    | '[' => do
      let rest ← behindClassStart? reader.setting rest
      let rest ← behindClass? reader.setting (rest.length + 1) 0 rest
      if reader.setting.unicode && reader.setting.foldsCase then none
      else some (reader.passed, rest)
    | '?' | '*' | '+' =>
      if reader.repeatable then
        some (reader, if rest.head? = some '?' then rest.tail else rest)
      else none
    | '\x7b' => none
    | '.' => if reader.setting.unicode then some (reader.passed, rest) else none
    | '^' | '$' => some (reader.passed, rest)
    | _ => do
      let (atom, rest) ← atom? (c :: rest)
      if atom.stands reader.setting then some (reader.passed, rest) else none

/-- Reads to the end, where no group may be open; the first argument bounds the steps. -/
def Reader.finishes : Nat → Reader → List Char → Bool
  | 0, _, _ => false
  | bound + 1, reader, text =>
    match reader.setting.trim text with
    | [] => reader.outer.isEmpty
    | text =>
      match reader.advance? text with
      | some (reader, rest) => finishes bound reader rest
      | none => false

def isExpression (text : List Char) : Bool :=
  Reader.finishes (text.length + 1) ⟨.initial, [], [], false⟩ text

/-! ### Numbers -/

def isMantissa (text : List Char) : Bool :=
  let digits := text.filter (· ≠ '.')
  digits ≠ [] && digits.all Char.isDigit && text.length ≤ digits.length + 1

def isMagnitude (text : List Char) : Bool :=
  let isExponentSign (c : Char) : Bool := c = 'e' || c = 'E'
  match text.dropWhile fun c => !isExponentSign c with
  | [] => isMantissa text
  | _ :: exponent =>
    let digits :=
      if exponent.head? = some '+' || exponent.head? = some '-' then exponent.tail else exponent
    isMantissa (text.takeWhile fun c => !isExponentSign c) && digits ≠ [] &&
      digits.all Char.isDigit

/-- Whether a text is a number, or the name of what is none or beyond all. -/
def isNumber (text : List Char) : Bool :=
  let text := if text.head? = some '+' || text.head? = some '-' then text.tail else text
  isMagnitude text ||
    ["inf", "infinity", "nan"].contains (String.ofList (text.map Char.toLower))

def isValue (text : List Char) : Bool := isNumber text || isExpression text

end HostEngine.Log.Pattern
