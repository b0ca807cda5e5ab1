import HostEngine.Log
import HostEngine.Log.Pattern
import HostEngine.Text.Octets
/-!
Log filters: comma-separated directives that say how fine the events of a part of the program may
be. The directive with the longest matching target decides; directives for spans are understood but
concern no event.
-/
set_option autoImplicit false

namespace HostEngine.Log

/-- The finest level that is let through, if any is. -/
abbrev Threshold := Option Level

def Threshold.admits (threshold : Threshold) (level : Level) : Bool :=
  match threshold with
  | none => false
  | some finest => finest.rank ≤ level.rank

/-- A threshold by its number: nothing for zero, then from the gravest level to the finest. -/
def Threshold.ofNumber? : Nat → Option Threshold
  | 0 => some none
  | 1 => some (some .error)
  | 2 => some (some .warn)
  | 3 => some (some .info)
  | 4 => some (some .debug)
  | 5 => some (some .trace)
  | _ => none

/-- A threshold by its number or by its name in any case; the empty name admits errors. -/
def Threshold.parse? (text : List Char) : Option Threshold :=
  let named : Option Threshold :=
    match String.ofList (text.map Char.toLower) with
    | "" | "error" => some (some .error)
    | "warn" => some (some .warn)
    | "info" => some (some .info)
    | "debug" => some (some .debug)
    | "trace" => some (some .trace)
    | "off" => some none
    | _ => none
  match readUnsigned UInt64.size (String.ofList text) with
  | .ok n => Threshold.ofNumber? n <|> named
  | .error _ => named

/-- A directive: the target it is for, the fields an event must have, and what it lets through. A
directive for spans concerns no event. -/
structure Directive where
  target : Option (List Char)
  fields : List (List Char)
  forSpans : Bool
  threshold : Threshold
  deriving DecidableEq, Repr

namespace Directive

/-! A directive is read in the text without its blanks at the ends, but its parts are taken by their
places from the text as it is written, blanks included. Places are counted in octets. -/

def octetCount : List Char → Nat
  | [] => 0
  | c :: rest => c.utf8Size + octetCount rest

/-- What follows the first `count` octets; none if a character is split. -/
def behind? : Nat → List Char → Option (List Char)
  | 0, text => some text
  | _ + 1, [] => none
  | count + 1, c :: rest =>
    if c.utf8Size ≤ count + 1 then behind? (count + 1 - c.utf8Size) rest else none

def ahead? : Nat → List Char → Option (List Char)
  | 0, _ => some []
  | _ + 1, [] => none
  | count + 1, c :: rest =>
    if c.utf8Size ≤ count + 1 then (ahead? (count + 1 - c.utf8Size) rest).map (c :: ·) else none

def part? (written : List Char) (start stop : Nat) : Option (List Char) :=
  (behind? start written).bind (ahead? (stop - start))

def ofLevelOrTarget (text : List Char) : Directive :=
  match Threshold.parse? text with
  | some threshold => ⟨none, [], false, threshold⟩
  | none => ⟨some text, [], false, some .trace⟩

/-- The level from a place on; everything passes if nothing stands there. -/
def level? (written : List Char) (place : Nat) : Option Threshold := do
  let text ← behind? place written
  if text = [] then some (some .trace) else Threshold.parse? text

/-- Completes a directive by what stands behind its closing bracket, from a place on. -/
def behindBracket? (written : List Char) (directive : Directive) (place : Nat) :
    List Char → Option Directive
  | [] => some directive
  | '=' :: _ => (level? written (place + 1)).map fun threshold => { directive with threshold }
  | _ => none

/-- Reads a field: its name, and whether a value is demanded of it. -/
def field? (text : List Char) : Option (List Char × Bool) :=
  let name := text.takeWhile (· ≠ '=')
  match text.dropWhile (· ≠ '=') with
  | [] => if text = [] then none else some (name, false)
  | _ :: value => if Pattern.isValue (value.takeWhile (· ≠ '=')) then some (name, true) else none

def bracketed? (written : List Char) (target : Option (List Char)) (place : Nat)
    (text : List Char) : Option Directive := do
  let name := text.takeWhile fun c => c ≠ ']' && c ≠ '\x7b'
  let place := place + octetCount name + 1
  match text.dropWhile fun c => c ≠ ']' && c ≠ '\x7b' with
  | ']' :: rest => behindBracket? written ⟨target, [], true, some .trace⟩ place rest
  | _ :: rest =>
    let stop := place + octetCount (rest.takeWhile (· ≠ '\x7d'))
    match rest.dropWhile (· ≠ '\x7d') with
    | _ :: ']' :: rest =>
      let (field, valued) ← (part? written place stop).bind field?
      behindBracket? written ⟨target, [field], name ≠ [] || valued, some .trace⟩ (stop + 2) rest
    | _ => none
  | [] => none

def canBegin (c : Char) : Bool :=
  c = '-' || c = ':' || c = '_' || isAlphabetic c || isNumeric c

def parse? (written : List Char) : Option Directive :=
  let text := trimBlanks written
  match text with
  | [] => none
  | '[' :: rest => bracketed? written none 1 rest
  | c :: _ =>
    if !canBegin c then none
    else
      let place := octetCount (text.takeWhile fun c => c ≠ '=' && c ≠ '[')
      match text.dropWhile fun c => c ≠ '=' && c ≠ '[' with
      | [] => some (ofLevelOrTarget written)
      | mark :: rest => do
        let target ← part? written 0 place
        if mark = '=' then (level? written (place + 1)).map (⟨some target, [], false, ·⟩)
        else bracketed? written (some target) (place + 1) rest

def eventField : List Char := "message".toList

def concerns (directive : Directive) (event : Event) : Bool :=
  !directive.forSpans && directive.fields.all (· = eventField) &&
    match directive.target with
    | none => true
    | some target => target.isPrefixOf event.origin.name.toList

/-- How specific a directive is: by its target's length, then by its fields. -/
def specificity (directive : Directive) : Nat × Nat :=
  ((directive.target.map fun target => target.length + 1).getD 0, directive.fields.length)

/-- The more specific of two directives, the later if both are the same. -/
def prefer (earlier : Option Directive) (later : Directive) : Option Directive :=
  match earlier with
  | none => some later
  | some earlier =>
    let (a, b) := earlier.specificity
    let (c, d) := later.specificity
    if a < c || (a = c && b ≤ d) then some later else some earlier

end Directive

abbrev Filter := List Directive

namespace Filter

def errorsOnly : Filter := [⟨none, [], false, some .error⟩]

def directiveTexts (text : List Char) : List (List Char) := (text.splitOn ',').filter (· ≠ [])

def parse? (text : String) : Option Filter :=
  match (directiveTexts text.toList).mapM Directive.parse? with
  | none => none
  | some [] => some errorsOnly
  | some directives => some directives

def admits (filter : Filter) (event : Event) : Bool :=
  match (filter.filter (·.concerns event)).foldl Directive.prefer none with
  | some directive => directive.threshold.admits event.level
  | none => false

/-- The filter that a variable of the environment gives, or that of a level if the variable is not
there or makes no sense. -/
def choose (given : Option Octets) (level : String) : Filter :=
  let ofLevel := (parse? level).getD errorsOnly
  match given.bind Octets.text? with
  | none => ofLevel
  | some text => (parse? text).getD ofLevel

end Filter

end HostEngine.Log
