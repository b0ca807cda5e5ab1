import HostEngine.Text.Octets
import HostEngine.Text.Digits
import HostEngine.Yaml.Token
/-!
Reading tags and the directives that declare their handles. Percent-escapes stand for the octets of
one character at a time, of which only the first and the high bits of the others are checked; so a
tag is octets, which need not be text. A NUL ends it.
-/
set_option autoImplicit false

namespace HostEngine.Yaml.Tag

/-- A character that may stand in a tag; the last three only in a verbatim one. -/
def isTagChar (verbatim : Bool) (c : Char) : Bool :=
  isNameChar c || ";/?:@&=+$.%!~*'()".toList.contains c ||
    (verbatim && (c = ',' || c = '[' || c = ']'))

def escapedOctet? : List Char → Option (Nat × List Char)
  | '%' :: a :: b :: rest => do
    let high ← hexValue? a
    let low ← hexValue? b
    some (high * 16 + low, rest)
  | _ => none

def followers? (octet : Nat) : Option Nat :=
  if octet < 0x80 then some 0
  else if octet / 0x20 = 0x6 then some 1
  else if octet / 0x10 = 0xE then some 2
  else if octet / 0x8 = 0x1E then some 3
  else none

def escapedFollowers? : Nat → List Char → Option (List Nat × List Char)
  | 0, cs => some ([], cs)
  | n + 1, cs => do
    let (octet, cs) ← escapedOctet? cs
    if octet / 0x40 = 0x2 then
      let (octets, cs) ← escapedFollowers? n cs
      some (octet :: octets, cs)
    else none

def escapedChar? (cs : List Char) : Option (Octets × Nat) := do
  let (first, cs) ← escapedOctet? cs
  let count ← followers? first
  let (others, _) ← escapedFollowers? count cs
  some ((first :: others).map (·.toUInt8), 3 * (count + 1))

/-- The octets of a tag from here on, and what is left unread. The second argument counts characters
that an escape has already read. -/
def uriFrom? (verbatim : Bool) : Nat → List Char → Option (Octets × List Char)
  | _, [] => some ([], [])
  | skip + 1, _ :: rest => uriFrom? verbatim skip rest
  | 0, c :: rest =>
    if isTagChar verbatim c then
      if c = '%' then do
        let (read, width) ← escapedChar? (c :: rest)
        let (octets, left) ← uriFrom? verbatim (width - 1) rest
        some (read ++ octets, left)
      else do
        let (octets, left) ← uriFrom? verbatim 0 rest
        some (c.toNat.toUInt8 :: octets, left)
    else some ([], c :: rest)

def uri? (verbatim : Bool) (cursor : Cursor) : Option (Octets × Cursor) := do
  let (octets, left) ← uriFrom? verbatim 0 cursor.rest
  some (octets, cursor.steps (cursor.rest.length - left.length))

def handle? (cursor : Cursor) : Option (List Char × Cursor) :=
  if startsWith '!' cursor.rest then
    let name := cursor.step.readWhile isNameChar
    let after := cursor.step.skipWhile isNameChar
    if startsWith '!' after.rest then some ('!' :: name ++ ['!'], after.step)
    else some ('!' :: name, after)
  else none

def isClosed (handle : List Char) : Bool :=
  1 < handle.length && handle.getLast? == some '!'

/-- The tag that stands next, as a handle and a suffix; the handle of a verbatim tag is empty. -/
def read? (flow : Bool) (cursor : Cursor) : Option (Token.Kind × Cursor) := do
  let (kind, after) ←
    if startsWith '<' cursor.step.rest then do
      let (octets, after) ← uri? true (cursor.steps 2)
      if octets.isEmpty || !startsWith '>' after.rest then none
      else some (Token.Kind.tag "" octets.untilNul, after.step)
    else do
      let (handle, after) ← handle? cursor
      let (octets, after) ← uri? false after
      if isClosed handle then
        if octets.isEmpty then none
        else some (Token.Kind.tag (String.ofList handle) octets.untilNul, after)
      else
        let suffix := Octets.untilNul (.ofString (String.ofList (handle.drop 1)) ++ octets)
        if suffix.isEmpty then some (Token.Kind.tag "" (.ofString "!"), after)
        else some (Token.Kind.tag "!" suffix, after)
  if (flow && startsWith ',' after.rest) || endsWord after.rest then some (kind, after) else none

def versionNumber? (cursor : Cursor) : Option (Nat × Cursor) :=
  let digits := cursor.readWhile Char.isDigit
  if digits.isEmpty || 9 < digits.length then none
  else
    match readDigits 1000000000 0 digits with
    | .ok n => some (n, cursor.skipWhile Char.isDigit)
    | .error _ => none

def version? (cursor : Cursor) : Option (Token.Kind × Cursor) := do
  let (major, cursor) ← versionNumber? (cursor.skipWhile isGap)
  if startsWith '.' cursor.rest then
    let (minor, cursor) ← versionNumber? cursor.step
    some (.versionDirective major minor, cursor)
  else none

def declaration? (cursor : Cursor) : Option (Token.Kind × Cursor) := do
  let (handle, cursor) ← handle? (cursor.skipWhile isGap)
  if handle = ['!'] || isClosed handle then
    match cursor.rest with
    | c :: _ =>
      if isGap c then
        let (octets, cursor) ← uri? true (cursor.skipWhile isGap)
        if octets.isEmpty || !endsWord cursor.rest then none
        else some (.tagDirective (String.ofList handle) octets.untilNul, cursor)
      else none
    | [] => none
  else none

/-- The directive that stands next, with the rest of its line; the token finishes where its value
does. -/
def directive? (cursor : Cursor) : Option (Token × Cursor) := do
  let name := cursor.step.readWhile isNameChar
  let after := cursor.step.skipWhile isNameChar
  if name.isEmpty || !endsWord after.rest then none
  else
    let (kind, value) ←
      if name = "YAML".toList then version? after
      else if name = "TAG".toList then declaration? after
      else none
    let next ← value.finishLine?
    some (⟨kind, cursor.mark, value.mark⟩, next)

end HostEngine.Yaml.Tag
