/-!
Numbers as digits: written in decimal or lowercase hexadecimal, and unsigned decimals read with a
bound. Reading accepts an optional plus sign and one or more ASCII digits; the first character that
fails decides which fault is reported.
-/
set_option autoImplicit false

namespace HostEngine

def decimal (n : Nat) : String := String.ofList (Nat.toDigits 10 n)

def signedDecimal : Int → String
  | .ofNat n => decimal n
  | .negSucc n => "-" ++ decimal (n + 1)

def hexadecimal (n : Nat) : String := String.ofList (Nat.toDigits 16 n)

def hexDigit (n : Nat) : Char := Nat.digitChar (n % 16)

def upperHexDigit (n : Nat) : Char := (hexDigit n).toUpper

/-- Uppercase hexadecimal with exactly `width` digits, higher digits dropped. -/
def upperHex (width n : Nat) : List Char :=
  match width with
  | 0 => []
  | width + 1 => upperHex width (n / 16) ++ [upperHexDigit n]

def digit? (c : Char) : Option Nat :=
  if c.isDigit then some (c.toNat - '0'.toNat) else none

def hexValue? (c : Char) : Option Nat :=
  if c.isDigit then some (c.toNat - '0'.toNat)
  else if 'a' ≤ c && c ≤ 'f' then some (c.toNat - 'a'.toNat + 10)
  else if 'A' ≤ c && c ≤ 'F' then some (c.toNat - 'A'.toNat + 10)
  else none

/-- Why a text is not an unsigned number below a bound. -/
inductive NumberFault where
  | noDigits
  | badDigit
  | tooLarge
  deriving DecidableEq, Repr

def NumberFault.message : NumberFault → String
  | .noDigits => "cannot parse integer from empty string"
  | .badDigit => "invalid digit found in string"
  | .tooLarge => "number too large to fit in target type"

def readDigits (bound : Nat) : Nat → List Char → Except NumberFault Nat
  | value, [] => .ok value
  | value, c :: rest =>
    match digit? c with
    | none => .error .badDigit
    | some d =>
      if value * 10 + d < bound then readDigits bound (value * 10 + d) rest
      else .error .tooLarge

/-- Reads an unsigned number below `bound`: an optional plus sign, then at least one digit. -/
def readUnsigned (bound : Nat) (text : String) : Except NumberFault Nat :=
  match text.toList with
  | [] => .error .noDigits
  | ['+'] => .error .badDigit
  | '+' :: c :: rest => readDigits bound 0 (c :: rest)
  | cs => readDigits bound 0 cs

end HostEngine
