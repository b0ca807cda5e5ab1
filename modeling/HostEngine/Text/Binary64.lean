import HostEngine.Text.Digits
/-!
Binary floating-point numbers of 64 bits: read from a decimal by rounding to nearest with ties to
even, and written with the fewest digits that read back, without an exponent. All of it is exact
arithmetic on natural numbers.
-/
set_option autoImplicit false

namespace HostEngine

/-- A floating-point number: its magnitude when finite is `mantissa * 2 ^ exponent`. -/
inductive Binary64 where
  | finite (negative : Bool) (mantissa : Nat) (exponent : Int)
  | infinite (negative : Bool)
  | notANumber
  deriving DecidableEq, Repr

namespace Binary64

def leastExponent : Int := -1074

def greatestExponent : Int := 971

/-- A quotient rounded to nearest, a half to the even neighbour. -/
def roundQuotient (num den : Nat) : Nat :=
  let q := num / den
  let r := num % den
  if 2 * r < den then q
  else if den < 2 * r then q + 1
  else if q % 2 = 0 then q else q + 1

def scaleDown (num den : Nat) (e : Int) : Nat × Nat :=
  match e with
  | .ofNat n => (num, den * Nat.pow 2 n)
  | .negSucc n => (num * Nat.pow 2 (n + 1), den)

def nearest? (num den : Nat) : Option (Nat × Int) :=
  let guess : Int := (Nat.log2 num : Int) - (Nat.log2 den : Int) - 53
  let exponent := max guess leastExponent
  let (n, d) := scaleDown num den exponent
  let exponent := if Nat.pow 2 53 ≤ n / d then exponent + 1 else exponent
  let (n, d) := scaleDown num den exponent
  let mantissa := roundQuotient n d
  let (mantissa, exponent) :=
    if mantissa = Nat.pow 2 53 then (Nat.pow 2 52, exponent + 1) else (mantissa, exponent)
  if greatestExponent < exponent then none else some (mantissa, exponent)

/-- The number nearest to `digits * 10 ^ scale`; none if that is beyond the finite ones. -/
def ofDecimal? (negative : Bool) (digits : Nat) (scale : Int) : Option Binary64 :=
  let size : Int := (Nat.toDigits 10 digits).length + scale
  if digits = 0 || size < -400 then some (.finite negative 0 leastExponent)
  else if 400 < size then none
  else
    let fraction :=
      match scale with
      | .ofNat n => (digits * Nat.pow 10 n, 1)
      | .negSucc n => (digits, Nat.pow 10 (n + 1))
    (nearest? fraction.1 fraction.2).map fun (mantissa, exponent) =>
      .finite negative mantissa exponent

/-! ### Writing -/

/-- A positive number as a fraction over `den`, with the ends of the interval that rounds to it. -/
structure Interval where
  low : Nat
  value : Nat
  high : Nat
  den : Nat
  closed : Bool

/-- The interval of a number: half a unit to both sides, a quarter below a power of two. -/
def interval (mantissa : Nat) (exponent : Int) : Interval :=
  let narrow := mantissa = Nat.pow 2 52 && leastExponent < exponent
  let value := 4 * mantissa
  let low := if narrow then value - 1 else value - 2
  let high := value + 2
  let (up, den) :=
    match exponent with
    | .ofNat n => (Nat.pow 2 n, 4)
    | .negSucc n => (1, 4 * Nat.pow 2 (n + 1))
  ⟨low * up, value * up, high * up, den, mantissa % 2 = 0⟩

def Interval.holds (i : Interval) (num den : Nat) : Bool :=
  let x := num * i.den
  if i.closed then i.low * den ≤ x && x ≤ i.high * den else i.low * den < x && x < i.high * den

def Interval.pick? (i : Interval) (scale : Int) : Option Nat :=
  let (unit, parts) :=
    match scale with
    | .ofNat n => (Nat.pow 10 n, 1)
    | .negSucc n => (1, Nat.pow 10 (n + 1))
  let below := i.value * parts / (i.den * unit)
  let lower := i.holds (below * unit) parts && below ≠ 0
  let upper := i.holds ((below + 1) * unit) parts
  if lower && upper then
    let distance := i.value * parts - below * unit * i.den
    if 2 * distance ≤ unit * i.den then some below else some (below + 1)
  else if lower then some below
  else if upper then some (below + 1)
  else none

/-- Tries grids from the coarsest on; the first that has a point in the interval wins. -/
def Interval.shortestFrom (i : Interval) : Nat → Int → Nat × Int
  | 0, scale => (i.value / i.den, scale)
  | bound + 1, scale =>
    match i.pick? scale with
    | some digits => (digits, scale)
    | none => shortestFrom i bound (scale - 1)

/-- The decimal with the fewest digits that reads back as a positive number. -/
def shortest (mantissa : Nat) (exponent : Int) : Nat × Int :=
  let i := interval mantissa exponent
  let size := (Nat.toDigits 10 (i.value / i.den)).length
  let small := (Nat.toDigits 10 (i.den / i.value)).length
  let top : Int := if i.den ≤ i.value then (size : Int) else 1 - (small : Int)
  i.shortestFrom 20 (top + 1)

def positional (digits : Nat) (scale : Int) : String :=
  let ds := Nat.toDigits 10 digits
  match scale with
  | .ofNat n => String.ofList (ds ++ List.replicate n '0') ++ ".0"
  | .negSucc n =>
    let places := n + 1
    let ds := List.replicate (places + 1 - ds.length) '0' ++ ds
    String.ofList (ds.take (ds.length - places)) ++ "." ++
      String.ofList (ds.drop (ds.length - places))

def text : Binary64 → String
  | .notANumber => "NaN"
  | .infinite negative => if negative then "-inf" else "inf"
  | .finite negative mantissa exponent =>
    (if negative then "-" else "") ++
      (if mantissa = 0 then "0.0"
      else
        let (digits, scale) := shortest mantissa exponent
        positional digits scale)

end Binary64

end HostEngine
