import HostEngine.Machine.Shell.Basic
/-!
Patterns: an asterisk stands for any text, a question mark for any character and brackets for one
character of a class. What is quoted stands for itself.
-/
set_option autoImplicit false

namespace HostEngine.Machine.Shell

structure Glyph where
  char : Char
  quoted : Bool
  deriving DecidableEq, Repr

def glyphs (quoted : Bool) (text : Text) : List Glyph := text.map (⟨·, quoted⟩)

def plainText (glyphs : List Glyph) : Text := glyphs.map (·.char)

namespace Pattern

def namedClass? (name : Text) : Option (Char → Bool) :=
  match String.ofList name with
  | "alpha" => some Char.isAlpha
  | "digit" => some Char.isDigit
  | "alnum" => some Char.isAlphanum
  | "upper" => some Char.isUpper
  | "lower" => some Char.isLower
  | "space" => some fun c => c = ' ' || ('\x09' ≤ c && c ≤ '\x0D')
  | "blank" => some fun c => c = ' ' || c = '\t'
  | "punct" => some fun c => '!' ≤ c && c ≤ '~' && !c.isAlphanum
  | "print" => some fun c => ' ' ≤ c && c ≤ '~'
  | "graph" => some fun c => '!' ≤ c && c ≤ '~'
  | "cntrl" => some fun c => c < ' ' || c = '\x7f'
  | "xdigit" => some fun c => c.isDigit || ('a' ≤ c && c ≤ 'f') || ('A' ≤ c && c ≤ 'F')
  | _ => none

/-- What a class between brackets holds, up to its end, and what follows; `steps` bounds the glyphs
read. A closing bracket that stands first is an element. -/
def elements? : Nat → Bool → (Char → Bool) → List Glyph → Option ((Char → Bool) × List Glyph)
  | 0, _, _, _ | _, _, _, [] => none
  | steps + 1, first, holds, g :: rest =>
    if g.char = ']' && !g.quoted && !first then some (holds, rest)
    else
      let name := (plainText (rest.drop 1)).takeWhile Char.isAlpha
      let behind := (rest.drop 1).drop name.length
      if g.char = '[' && !g.quoted && (rest.head?.map (·.char)) = some ':' &&
          plainText (behind.take 2) = [':', ']'] then
        let more := (namedClass? name).getD fun _ => false
        elements? steps false (fun c => holds c || more c) (behind.drop 2)
      else
        match rest with
        | dash :: last :: after =>
          if dash.char = '-' && !dash.quoted && (last.char ≠ ']' || last.quoted) then
            elements? steps false (fun c => holds c || (g.char ≤ c && c ≤ last.char)) after
          else elements? steps false (fun c => holds c || c = g.char) rest
        | _ => elements? steps false (fun c => holds c || c = g.char) rest

def class? (pattern : List Glyph) : Option ((Char → Bool) × List Glyph) :=
  match pattern with
  | g :: rest =>
    if (g.char = '!' || g.char = '^') && !g.quoted then
      (elements? (rest.length + 1) true (fun _ => false) rest).map fun (holds, after) =>
        (fun c => !holds c, after)
    else elements? (pattern.length + 1) true (fun _ => false) pattern
  | [] => none

def fitsWithin : Nat → List Glyph → Text → Bool
  | 0, _, _ => false
  | _, [], text => text.isEmpty
  | steps + 1, g :: rest, text =>
    if g.char = '*' && !g.quoted then
      fitsWithin steps rest text ||
        (match text with | _ :: text => fitsWithin steps (g :: rest) text | [] => false)
    else
      match text with
      | [] => false
      | c :: text =>
        if g.char = '?' && !g.quoted then fitsWithin steps rest text
        else
          match (if g.char = '[' && !g.quoted then class? rest else none) with
          | some (holds, after) => holds c && fitsWithin steps after text
          | none => g.char = c && fitsWithin steps rest text

def fits (pattern : List Glyph) (text : Text) : Bool :=
  fitsWithin (pattern.length + text.length + 1) pattern text

def isOpen (pattern : List Glyph) : Bool :=
  pattern.any fun g => !g.quoted && (g.char = '*' || g.char = '?' || g.char = '[')

/-- The text without the part in front that fits a pattern: the shortest one, or the longest. -/
def trimStart (longest : Bool) (pattern : List Glyph) (text : Text) : Text :=
  let places := List.range (text.length + 1)
  let places := if longest then places.reverse else places
  match places.find? fun n => fits pattern (text.take n) with
  | some n => text.drop n
  | none => text

def trimEnd (longest : Bool) (pattern : List Glyph) (text : Text) : Text :=
  let places := List.range (text.length + 1)
  let places := if longest then places else places.reverse
  match places.find? fun n => fits pattern (text.drop n) with
  | some n => text.take n
  | none => text

end Pattern

end HostEngine.Machine.Shell
