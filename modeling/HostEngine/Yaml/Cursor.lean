/-!
A place in a document text: the characters that are left, and how far they are from the start. Marks
count characters; a line ends at any of the five line breaks, of which a carriage return followed by
a line feed is one.
-/
set_option autoImplicit false

namespace HostEngine.Yaml

/-- A place in a text, counted in characters. Lines and columns start at zero. -/
structure Mark where
  index : Nat
  line : Nat
  column : Nat
  deriving DecidableEq, Repr

def Mark.start : Mark := ⟨0, 0, 0⟩

/-- A place in a text with the characters that follow it. -/
structure Cursor where
  rest : List Char
  mark : Mark
  deriving DecidableEq, Repr

/-! ### Classes of characters -/

def isBreak (c : Char) : Bool :=
  c = '\r' || c = '\n' || c = '\u0085' || c = '\u2028' || c = '\u2029'

def isGap (c : Char) : Bool := c = ' ' || c = '\t'

/-- A character of names: an ASCII letter or digit, an underscore or a hyphen. -/
def isNameChar (c : Char) : Bool := c.isAlphanum || c = '_' || c = '-'

def endsLine : List Char → Bool
  | [] => true
  | c :: _ => isBreak c

def endsWord : List Char → Bool
  | [] => true
  | c :: _ => isGap c || isBreak c

def startsWith (c : Char) : List Char → Bool
  | [] => false
  | d :: _ => c == d

/-- Whether a whole word stands next: three times the same character, then the end of the word. -/
def isTriple (c : Char) : List Char → Bool
  | a :: b :: d :: rest => a = c && b = c && d = c && endsWord rest
  | _ => false

namespace Cursor

def ofText (cs : List Char) : Cursor := ⟨cs, .start⟩

def step (cursor : Cursor) : Cursor :=
  match cursor.rest with
  | [] => cursor
  | _ :: rest => ⟨rest, ⟨cursor.mark.index + 1, cursor.mark.line, cursor.mark.column + 1⟩⟩

def steps : Nat → Cursor → Cursor
  | 0, cursor => cursor
  | n + 1, cursor => steps n cursor.step

def stepLine (cursor : Cursor) : Cursor :=
  match cursor.rest with
  | '\r' :: '\n' :: rest => ⟨rest, ⟨cursor.mark.index + 2, cursor.mark.line + 1, 0⟩⟩
  | c :: rest =>
    if isBreak c then ⟨rest, ⟨cursor.mark.index + 1, cursor.mark.line + 1, 0⟩⟩ else cursor
  | [] => cursor

/-- What the line break that stands next contributes to a scalar. -/
def lineText (cursor : Cursor) : List Char :=
  match cursor.rest with
  | '\u2028' :: _ => ['\u2028']
  | '\u2029' :: _ => ['\u2029']
  | c :: _ => if isBreak c then ['\n'] else []
  | [] => []

def skipWhile (p : Char → Bool) (cursor : Cursor) : Cursor :=
  let n := (cursor.rest.takeWhile p).length
  ⟨cursor.rest.drop n, ⟨cursor.mark.index + n, cursor.mark.line, cursor.mark.column + n⟩⟩

def readWhile (p : Char → Bool) (cursor : Cursor) : List Char := cursor.rest.takeWhile p

def skipComment (cursor : Cursor) : Cursor :=
  if startsWith '#' cursor.rest then cursor.skipWhile fun c => !isBreak c else cursor

/-- Past gaps and a comment to the end of the line; none if anything else stands there. -/
def finishLine? (cursor : Cursor) : Option Cursor :=
  let cursor := (cursor.skipWhile isGap).skipComment
  if endsLine cursor.rest then some cursor.stepLine else none

end Cursor

end HostEngine.Yaml
