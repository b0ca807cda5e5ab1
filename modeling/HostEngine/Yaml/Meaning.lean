import HostEngine.Text.Binary64
import HostEngine.Yaml.Node
/-!
What the text of a plain scalar stands for: nothing, a truth value, a number or itself. Digits
behind a leading zero stand for themselves.
-/
set_option autoImplicit false

namespace HostEngine.Yaml

inductive Meaning where
  | null
  | bool (value : Bool)
  | integer (value : Int)
  | float (value : Binary64)
  | text
  deriving DecidableEq, Repr

namespace Meaning

def isNull (text : String) : Bool :=
  text = "~" || text = "null" || text = "Null" || text = "NULL"

def bool? (text : String) : Option Bool :=
  if text = "true" || text = "True" || text = "TRUE" then some true
  else if text = "false" || text = "False" || text = "FALSE" then some false
  else none

def dropSign (sign : Char) : List Char → List Char
  | c :: rest => if c = sign then rest else c :: rest
  | [] => []

def isSigned : List Char → Bool
  | c :: _ => c = '+' || c = '-'
  | [] => false

/-- Digits behind a leading zero, with or without a sign. -/
def isZeroLed (cs : List Char) : Bool :=
  match (match cs with | c :: rest => if c = '+' || c = '-' then rest else cs | [] => []) with
  | '0' :: d :: rest => (d :: rest).all Char.isDigit
  | _ => false

def magnitudeFrom? (base : Nat) : Nat → List Char → Option Nat
  | value, [] => some value
  | value, c :: rest =>
    (hexValue? c).bind fun d =>
      if d < base then magnitudeFrom? base (value * base + d) rest else none

def magnitude? (base : Nat) (cs : List Char) : Option Nat :=
  if cs.isEmpty then none else magnitudeFrom? base 0 cs

def baseMark? : List Char → Option (Nat × List Char)
  | '0' :: 'x' :: rest => some (16, rest)
  | '0' :: 'o' :: rest => some (8, rest)
  | '0' :: 'b' :: rest => some (2, rest)
  | _ => none

/-- The number below `bound` that a text spells, perhaps with a plus sign. -/
def unsigned? (bound : Nat) (cs : List Char) : Option Nat :=
  let digits := dropSign '+' cs
  match baseMark? digits with
  | some (base, rest) => (magnitude? base rest).filter (· < bound)
  | none =>
    if isSigned digits || isZeroLed cs then none
    else (magnitude? 10 digits).filter (· < bound)

def negative? (bound : Nat) : List Char → Option Int
  | '-' :: cs =>
    match baseMark? cs with
    | some (base, rest) =>
      ((magnitude? base rest).filter (· ≤ bound)).map fun n => -(n : Int)
    | none =>
      if isZeroLed ('-' :: cs) then none
      else ((magnitude? 10 cs).filter (· ≤ bound)).map fun n => -(n : Int)
  | _ => none

/-- The integer of at most 128 bits that a text spells. -/
def integer? (cs : List Char) : Option Int :=
  match unsigned? (UInt64.size * UInt64.size) cs with
  | some n => some n
  | none => negative? (UInt64.size * UInt64.size / 2) cs

def digitSpan (cs : List Char) : List Char × List Char :=
  (cs.takeWhile Char.isDigit, cs.dropWhile Char.isDigit)

/-- The exponent part of a decimal, which reaches to its end. An exponent of many digits is cut to
one that is as good as infinite. -/
def exponent? (cs : List Char) : Option Int :=
  match cs with
  | [] => some 0
  | c :: rest =>
    if c = 'e' || c = 'E' then
      let negative := rest.head? = some '-'
      let digits := if isSigned rest then rest.drop 1 else rest
      if digits.isEmpty || !digits.all Char.isDigit then none
      else
        let digits := digits.dropWhile (· = '0')
        let n : Nat := if 8 < digits.length then 100000000 else ((magnitude? 10 digits).getD 0)
        some (if negative then -(n : Int) else n)
    else none

def decimal? (cs : List Char) : Option Binary64 :=
  let negative := cs.head? = some '-'
  let cs := if isSigned cs then cs.drop 1 else cs
  let (whole, rest) := digitSpan cs
  let (places, rest) :=
    match rest with
    | '.' :: rest => digitSpan rest
    | rest => ([], rest)
  if whole.isEmpty && places.isEmpty then none
  else
    (exponent? rest).bind fun exponent =>
      (magnitude? 10 (whole ++ places)).bind fun digits =>
        Binary64.ofDecimal? negative digits (exponent - places.length)

def float? (text : String) : Option Binary64 :=
  let cs := text.toList
  let digits := dropSign '+' cs
  if digits.length < cs.length && isSigned digits then none
  else
    let unsigned := String.ofList digits
    if unsigned = ".inf" || unsigned = ".Inf" || unsigned = ".INF" then some (.infinite false)
    else if text = "-.inf" || text = "-.Inf" || text = "-.INF" then some (.infinite true)
    else if text = ".nan" || text = ".NaN" || text = ".NAN" then some .notANumber
    else decimal? digits

/-- What a plain scalar with this text stands for. -/
def ofText (text : String) : Meaning :=
  if text = "" || isNull text then .null
  else
    match bool? text with
    | some value => .bool value
    | none =>
      match integer? text.toList with
      | some value => .integer value
      | none =>
        if isZeroLed text.toList then .text
        else
          match float? text with
          | some value => .float value
          | none => .text

end Meaning

end HostEngine.Yaml
