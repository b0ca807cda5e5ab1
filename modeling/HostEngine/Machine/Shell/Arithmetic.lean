import HostEngine.Machine.Shell.Basic
import HostEngine.Text.Digits
/-!
Arithmetic of the shell: expressions on integers of 64 bits, with variables that can be assigned to.
Operators bind as usual, and those of one rank from left to right.
-/
set_option autoImplicit false

namespace HostEngine.Machine.Shell.Arithmetic

inductive Symbol where
  | number (n : Int)
  | name (name : Text)
  | sign (sign : Text)
  deriving DecidableEq, Repr

def wrap (n : Int) : Int := Int.bmod n (Nat.pow 2 64)

def digits? (base : Nat) : Nat → Text → Option Nat
  | n, [] => some n
  | n, c :: rest =>
    (hexValue? c).bind fun d => if d < base then digits? base (n * base + d) rest else none

/-- The number that a text writes: in decimal, in octal behind a zero, or in hexadecimal. -/
def number? (text : Text) : Option Nat :=
  match text with
  | '0' :: 'x' :: c :: rest | '0' :: 'X' :: c :: rest => digits? 16 0 (c :: rest)
  | '0' :: c :: rest => digits? 8 0 (c :: rest)
  | [] => none
  | text => digits? 10 0 text

def integer? (text : Text) : Option Int :=
  let isSpace (c : Char) : Bool := c = ' ' || c = '\t' || c = '\n'
  let text := ((text.dropWhile isSpace).reverse.dropWhile isSpace).reverse
  match text with
  | '-' :: rest => (number? rest).map fun n => -(n : Int)
  | '+' :: rest => (number? rest).map fun n => (n : Int)
  | rest => (number? rest).map fun n => (n : Int)

def longSigns : List String :=
  ["<<=", ">>=", "<<", ">>", "<=", ">=", "==", "!=", "&&", "||", "+=", "-=", "*=", "/=", "%=",
    "&=", "^=", "|="]

def symbols? : Nat → Text → Option (List Symbol)
  | 0, _ => none
  | _, [] => some []
  | steps + 1, c :: rest =>
    let go (symbol : Symbol) (text : Text) : Option (List Symbol) :=
      (symbols? steps text).map (symbol :: ·)
    if c = ' ' || c = '\t' || c = '\n' then symbols? steps rest
    else if c.isDigit then do
      let text := (c :: rest).takeWhile Char.isAlphanum
      go (.number (← number? text)) ((c :: rest).drop text.length)
    else if c.isAlpha || c = '_' then
      let text := (c :: rest).takeWhile fun c => c.isAlphanum || c = '_'
      go (.name text) ((c :: rest).drop text.length)
    else
      match longSigns.find? fun sign => sign.toList.isPrefixOf (c :: rest) with
      | some sign => go (.sign sign.toList) ((c :: rest).drop sign.length)
      | none =>
        if "+-*/%<>=!~&^|?:()".toList.contains c then go (.sign [c]) rest else none

/-- What variables hold, and what was assigned to them, latest first. -/
structure Variables where
  held : Text → Text
  assigned : List (Text × Int)

def Variables.value? (bindings : Variables) (name : Text) : Option Int :=
  match bindings.assigned.lookup name with
  | some n => some n
  | none => if bindings.held name = [] then some 0 else integer? (bindings.held name)

def truth (condition : Bool) : Int := if condition then 1 else 0

def binary? (sign : Text) (a b : Int) : Option Int :=
  let bits (operation : UInt64 → UInt64 → UInt64) : Int :=
    ((operation (UInt64.ofInt a) (UInt64.ofInt b)).toNat : Int)
  (match String.ofList sign with
    | "||" => some (truth (a ≠ 0 || b ≠ 0))
    | "&&" => some (truth (a ≠ 0 && b ≠ 0))
    | "|" => some (bits (· ||| ·))
    | "^" => some (bits (· ^^^ ·))
    | "&" => some (bits (· &&& ·))
    | "==" => some (truth (a = b))
    | "!=" => some (truth (a ≠ b))
    | "<" => some (truth (a < b))
    | "<=" => some (truth (a ≤ b))
    | ">" => some (truth (b < a))
    | ">=" => some (truth (b ≤ a))
    | "<<" => some (a * Nat.pow 2 (b % 64).toNat)
    | ">>" => some (a / Nat.pow 2 (b % 64).toNat)
    | "+" => some (a + b)
    | "-" => some (a - b)
    | "*" => some (a * b)
    | "/" => if b = 0 then none else some (Int.tdiv a b)
    | "%" => if b = 0 then none else some (Int.tmod a b)
    | _ => none).map wrap

def ranks : List (List String) :=
  [["||"], ["&&"], ["|"], ["^"], ["&"], ["==", "!="], ["<", "<=", ">", ">="], ["<<", ">>"],
    ["+", "-"], ["*", "/", "%"]]

/-- A value, the variables after it, and the symbols that are left. -/
abbrev Value := Int × Variables × List Symbol

/-- What is evaluated: a whole expression, operands joined by operators of a rank and stronger ones,
what goes on with a first operand, or one operand. -/
inductive Goal where
  | whole
  | rank (ranks : List (List String))
  | onward (ranks : List (List String)) (value : Int)
  | operand

def evaluate? : Nat → Goal → Variables → List Symbol → Option Value
  | 0, _, _, _ => none
  | steps + 1, .whole, bindings, symbols =>
    let choice : Option Value := do
      let (condition, bindings, rest) ← evaluate? steps (.rank ranks) bindings symbols
      match rest with
      | .sign ['?'] :: rest => do
        let (whenTrue, bindings, rest) ← evaluate? steps .whole bindings rest
        match rest with
        | .sign [':'] :: rest => do
          let (whenFalse, bindings, rest) ← evaluate? steps .whole bindings rest
          some (if condition = 0 then whenFalse else whenTrue, bindings, rest)
        | _ => none
      | rest => some (condition, bindings, rest)
    match symbols with
    | .name name :: .sign sign :: rest =>
      if sign.getLast? = some '=' ∧ String.ofList sign ∉ ["==", "!=", "<=", ">="] then do
        let (value, bindings, rest) ← evaluate? steps .whole bindings rest
        let value ←
          if sign = ['='] then some value
          else (bindings.value? name).bind fun old => binary? sign.dropLast old value
        some (value, { bindings with assigned := (name, value) :: bindings.assigned }, rest)
      else choice
    | _ => choice
  | steps + 1, .rank [], bindings, symbols => evaluate? steps .operand bindings symbols
  | steps + 1, .rank (signs :: stronger), bindings, symbols => do
    let (value, bindings, rest) ← evaluate? steps (.rank stronger) bindings symbols
    evaluate? steps (.onward (signs :: stronger) value) bindings rest
  | steps + 1, .onward ranks value, bindings, symbols =>
    match ranks, symbols with
    | signs :: stronger, .sign sign :: rest =>
      if signs.contains (String.ofList sign) then do
        let (right, bindings, rest) ← evaluate? steps (.rank stronger) bindings rest
        evaluate? steps (.onward ranks (← binary? sign value right)) bindings rest
      else some (value, bindings, symbols)
    | _, _ => some (value, bindings, symbols)
  | steps + 1, .operand, bindings, symbols =>
    match symbols with
    | .number n :: rest => some (wrap n, bindings, rest)
    | .name name :: rest => (bindings.value? name).map fun n => (n, bindings, rest)
    | .sign ['('] :: rest => do
      let (value, bindings, rest) ← evaluate? steps .whole bindings rest
      match rest with
      | .sign [')'] :: rest => some (value, bindings, rest)
      | _ => none
    | .sign [c] :: rest => do
      let (value, bindings, rest) ← evaluate? steps .operand bindings rest
      match c with
      | '+' => some (value, bindings, rest)
      | '-' => some (wrap (-value), bindings, rest)
      | '!' => some (truth (value = 0), bindings, rest)
      | '~' => some (wrap (-value - 1), bindings, rest)
      | _ => none
    | _ => none

def value? (held : Text → Text) (expression : Text) : Option (Int × List (Text × Int)) := do
  let symbols ← symbols? (expression.length + 1) expression
  let (value, bindings, rest) ← evaluate? (24 * symbols.length + 24) .whole ⟨held, []⟩ symbols
  if rest = [] then some (value, bindings.assigned) else none

end HostEngine.Machine.Shell.Arithmetic
