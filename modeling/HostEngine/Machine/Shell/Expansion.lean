import HostEngine.Machine.Shell.Arithmetic
import HostEngine.Machine.Shell.Pattern
import HostEngine.Machine.Shell.Printed
import HostEngine.Machine.Shell.State
/-!
Expansion of words: parameters, expressions and the output of scripts are substituted, what was
substituted is divided into fields, and fields that are patterns become the file names that fit.
How a script is run is an argument.
-/
set_option autoImplicit false

namespace HostEngine.Machine.Shell

abbrev Capture := State → Text → State × Text

/-- Fields that are complete, latest first, the one that is being put together, latest glyph first,
and whether a blank has just ended one. -/
structure Fields where
  complete : List (List Glyph)
  current : Option (List Glyph)
  afterBlank : Bool

namespace Fields

def none : Fields := ⟨[], .none, false⟩

def add (fields : Fields) (glyphs : List Glyph) : Fields :=
  { fields with
    current := some (glyphs.reverse ++ fields.current.getD []), afterBlank := false }

def close (fields : Fields) : Fields :=
  match fields.current with
  | some field => { fields with complete := field.reverse :: fields.complete, current := .none }
  | .none => fields

/-- Adds a text that dividers divide into fields: blanks among them end a field that is open, others
end a field even if it is empty. -/
def divide (dividers : Text) (fields : Fields) (text : Text) : Fields :=
  text.foldl (fun fields c =>
    if !dividers.contains c then fields.add [⟨c, false⟩]
    else if c = ' ' || c = '\t' || c = '\n' then
      match fields.current with
      | some _ => { fields.close with afterBlank := true }
      | .none => fields
    else if fields.current.isNone && fields.afterBlank then { fields with afterBlank := false }
    else (fields.add []).close) fields

def addAll (add : Fields → Text → Fields) (fields : Fields) : List Text → Fields
  | [] => fields
  | [text] => add fields text
  | text :: rest => addAll add (add fields text).close rest

def toList (fields : Fields) : List (List Glyph) := fields.close.complete.reverse

end Fields

/-! ### File names -/

/-- The names that fit a pattern in a directory, in order; hidden ones only if the pattern says
so. -/
def namesThatFit (world : World) (place : Octets) (pattern : List Glyph) : List Octets :=
  let isHidden (name : Octets) : Bool := name.head? = some dot
  match world.files.find world.directory (if place = [] then [dot] else place) with
  | .ok (path, .directory) =>
    let names := (world.files.names path).filter fun name =>
      Pattern.fits pattern (Text.ofOctets name) &&
        (!isHidden name || (pattern.head?.map (·.char)) = some '.')
    names.mergeSort fun a b => !(b < a)
  | _ => []

def pathsThatFit (world : World) (place : Octets) : List (List Glyph) → List Octets
  | [] => [place]
  | part :: rest =>
    let go (name : Octets) : List Octets :=
      pathsThatFit world (place ++ name ++ if rest = [] then [] else [slash]) rest
    if Pattern.isOpen part then (namesThatFit world place part).flatMap go
    else go (Text.octets (plainText part))

/-- The texts that a field stands for: the file names that fit it, or itself. -/
def State.resolve (state : State) (field : List Glyph) : List Text :=
  if state.manner.literal || !Pattern.isOpen field then [plainText field]
  else
    let isThere (name : Octets) : Bool :=
      match state.world.files.locate false state.world.directory name with
      | .ok (_, some _) => true
      | _ => false
    let found := (pathsThatFit state.world [] (field.splitOnP (·.char = '/'))).filter isThere
    if found = [] then [plainText field] else found.map Text.ofOctets

/-! ### Words -/

namespace State

def homeward (state : State) : Word → Word
  | .literal ['~'] false :: rest =>
    let isAlone : Bool := match rest with
      | [] => true
      | .literal ['/'] false :: _ => true
      | _ => false
    match state.setting? "HOME".toList with
    | some home => if isAlone then .literal home true :: rest else .literal ['~'] false :: rest
    | none => .literal ['~'] false :: rest
  | word => word

def compute (state : State) (expression : Text) : State × Text :=
  match Arithmetic.value? (fun name => (state.setting? name).getD []) expression with
  | none => (state.refuse, [])
  | some (value, assigned) =>
    let state := assigned.reverse.foldl
      (fun state (name, n) => state.assign name (signedDecimal n).toList) state
    (state, (signedDecimal value).toList)

def addText (state : State) (divided quoted : Bool) (fields : Fields) (text : Text) : Fields :=
  if quoted || !divided then fields.add (glyphs quoted text)
  else fields.divide state.dividers text

def addValue (state : State) (divided quoted : Bool) (parameter : Parameter) (value : Text)
    (fields : Fields) : Fields :=
  match parameter, quoted with
  | .all true, _ | .all false, false =>
    Fields.addAll (state.addText divided quoted) fields state.arguments
  | _, _ => state.addText divided quoted fields value

/-- Adds the parts of a word to fields, where what is substituted is divided or not; `isInner` tells
whether the word is a substitute itself, and `steps` bounds the depth of words inside words. -/
def expandParts (capture : Capture) (divided : Bool) :
    Nat → Bool → State → Fields → Word → State × Fields
  | 0, _, state, fields, _ => (state, fields)
  | _, _, state, fields, [] => (state, fields)
  | steps + 1, isInner, state, fields, part :: rest =>
    if !state.isOnward then (state, fields)
    else
      let add (quoted : Bool) (state : State) (text : Text) : State × Fields :=
        (state, state.addText divided quoted fields text)
      -- The word that an operand stands for, added to fields.
      let inner (state : State) (fields : Fields) (quoted : Bool) (operand : Text) :
          State × Fields :=
        match Word.ofText? quoted operand with
        | some word => expandParts capture divided steps true state fields (state.homeward word)
        | none => (state.refuse, fields)
      let innerGlyphs (state : State) (quoted : Bool) (operand : Text) : State × List Glyph :=
        let (state, fields) := inner state .none quoted operand
        (state, List.intercalate [⟨' ', false⟩] fields.toList)
      let (state, fields) := match part with
        | .literal text quoted =>
          (state, if quoted || (text ≠ [] && !isInner) then fields.add (glyphs quoted text)
            else state.addText divided false fields text)
        | .arithmetic expression quoted =>
          let (state, text) := innerGlyphs state true expression
          let (state, value) := state.compute (plainText text)
          add quoted state value
        | .output script quoted =>
          let (state, text) := capture state script
          add quoted state text
        | .parameter parameter operation operand quoted =>
          let value := state.value? parameter
          let lacks (evenIfEmpty : Bool) : Bool :=
            value.isNone || (evenIfEmpty && value = some [])
          let given (value : Text) : State × Fields :=
            (state, state.addValue divided quoted parameter value fields)
          let demanded (use : Text → State × Fields) : State × Fields :=
            match value with
            | some value => use value
            | none => if state.demands parameter then (state.refuse, fields) else use []
          match operation with
          | .value =>
            match value, parameter with
            | none, .all _ => (state, fields)
            | _, _ => demanded given
          | .length => demanded fun value => add quoted state (numeral value.length)
          | .fallback evenIfEmpty =>
            if lacks evenIfEmpty then inner state fields quoted operand
            else given (value.getD [])
          | .alternative evenIfEmpty =>
            if lacks evenIfEmpty then (state, if quoted then fields.add [] else fields)
            else inner state fields quoted operand
          | .demand evenIfEmpty =>
            if lacks evenIfEmpty then (state.refuse, fields) else given (value.getD [])
          | .assignment evenIfEmpty =>
            if lacks evenIfEmpty then
              let (state, text) := innerGlyphs state quoted operand
              match parameter with
              | .variable name => add quoted (state.assign name (plainText text)) (plainText text)
              | _ => (state.refuse, fields)
            else given (value.getD [])
          | .trimEnd longest => demanded fun value =>
            let (state, pattern) := innerGlyphs state false operand
            add quoted state (Pattern.trimEnd longest pattern value)
          | .trimStart longest => demanded fun value =>
            let (state, pattern) := innerGlyphs state false operand
            add quoted state (Pattern.trimStart longest pattern value)
      expandParts capture divided steps isInner state fields rest

def expansionLimit (word : Word) : Nat :=
  word.foldl (fun total part => total + match part with
    | .parameter _ _ operand _ => operand.length
    | .arithmetic expression _ => expression.length
    | .literal _ _ | .output _ _ => 0) (word.length + 64)

def expandFields (capture : Capture) (divided : Bool) (state : State) (word : Word) :
    State × List (List Glyph) :=
  let (state, fields) :=
    expandParts capture divided (expansionLimit word) false state .none (state.homeward word)
  (state, fields.toList)

def expand (capture : Capture) (state : State) : List Word → State × List Text
  | [] => (state, [])
  | word :: rest =>
    let (state, fields) := state.expandFields capture true word
    let (after, texts) := expand capture state rest
    (after, fields.flatMap state.resolve ++ texts)

def expandGlyphs (capture : Capture) (state : State) (word : Word) : State × List Glyph :=
  let (after, fields) := state.expandFields capture false word
  (after, List.intercalate [⟨' ', false⟩] fields)

def expandWhole (capture : Capture) (state : State) (word : Word) : State × Text :=
  let (state, glyphs) := state.expandGlyphs capture word
  (state, plainText glyphs)

end State

end HostEngine.Machine.Shell
