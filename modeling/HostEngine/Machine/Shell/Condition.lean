import HostEngine.Machine.Files
import HostEngine.Machine.Shell.Arithmetic
/-!
Conditions that commands test: on texts, on numbers and on files, put together with signs for not,
and, and or.
-/
set_option autoImplicit false

namespace HostEngine.Machine.Shell.Condition

structure Place where
  files : Files
  directory : Directory

def Place.find? (place : Place) (name : Text) : Option Entry :=
  match place.files.find place.directory name.octets with
  | .ok (_, entry) => some entry
  | .error _ => none

def Place.isLink (place : Place) (name : Text) : Bool :=
  match place.files.locate false place.directory name.octets with
  | .ok (_, some (.link _)) => true
  | _ => false

def hasContent : Entry → Bool
  | .file _ content => content ≠ []
  | .sink => false
  | .directory | .link _ | .program _ | .library _ => true

def unary? (place : Place) (sign operand : Text) : Option Bool :=
  let holds (p : Entry → Bool) : Option Bool := some ((place.find? operand).any p)
  match String.ofList sign with
  | "-n" => some (operand ≠ [])
  | "-z" => some (operand = [])
  | "-e" | "-r" | "-w" | "-O" | "-G" => holds fun _ => true
  | "-x" => holds fun entry => entry.isExecutable || entry = .directory
  | "-d" => holds (· = .directory)
  | "-f" => holds fun
    | .file _ _ | .program _ | .library _ => true
    | .directory | .link _ | .sink => false
  | "-s" => holds hasContent
  | "-c" => holds (· = .sink)
  | "-h" | "-L" => some (place.isLink operand)
  | "-b" | "-p" | "-S" | "-g" | "-u" | "-k" => some false
  | "-t" => (Arithmetic.integer? operand).map fun _ => false
  | _ => none

def unarySigns : List String :=
  ["-n", "-z", "-e", "-r", "-w", "-O", "-G", "-x", "-d", "-f", "-s", "-c", "-h", "-L", "-b", "-p",
    "-S", "-g", "-u", "-k", "-t"]

def number? (text : Text) : Option Int :=
  let isSpace (c : Char) : Bool := c = ' ' || c = '\t' || c = '\n'
  let trimmed := ((text.dropWhile isSpace).reverse.dropWhile isSpace).reverse
  let digits := match trimmed with
    | '-' :: rest | '+' :: rest => rest
    | rest => rest
  let isNegative := trimmed.head? = some '-'
  if digits ≠ [] && digits.all Char.isDigit then
    (String.ofList digits).toNat?.map fun n => if isNegative then -(n : Int) else n
  else none

def binary? (left sign right : Text) : Option Bool :=
  let numbers (holds : Int → Int → Bool) : Option Bool := do
    some (holds (← number? left) (← number? right))
  match String.ofList sign with
  | "=" | "==" => some (left = right)
  | "!=" => some (left ≠ right)
  | "<" => some (left < right)
  | ">" => some (right < left)
  | "-eq" => numbers fun a b => a = b
  | "-ne" => numbers fun a b => a ≠ b
  | "-lt" => numbers fun a b => a < b
  | "-le" => numbers fun a b => a ≤ b
  | "-gt" => numbers fun a b => b < a
  | "-ge" => numbers fun a b => b ≤ a
  | "-nt" | "-ot" => some false
  | "-ef" => some (left = right)
  | _ => none

def binarySigns : List String :=
  ["=", "==", "!=", "<", ">", "-eq", "-ne", "-lt", "-le", "-gt", "-ge", "-nt", "-ot", "-ef"]

/-- What is looked for: conditions of which one must hold, of which all must hold, or one that may
be negated. -/
inductive Goal where
  | any
  | all
  | one

def truth? (place : Place) : Nat → Goal → List Text → Option (Bool × List Text)
  | 0, _, _ => none
  | steps + 1, .any, words => do
    let (first, rest) ← truth? place steps .all words
    match rest with
    | ['-', 'o'] :: rest => do
      let (second, rest) ← truth? place steps .any rest
      some (first || second, rest)
    | rest => some (first, rest)
  | steps + 1, .all, words => do
    let (first, rest) ← truth? place steps .one words
    match rest with
    | ['-', 'a'] :: rest => do
      let (second, rest) ← truth? place steps .all rest
      some (first && second, rest)
    | rest => some (first, rest)
  | steps + 1, .one, words =>
    match words with
    | [] => none
    | [word] => some (word ≠ [], [])
    | first :: second :: rest =>
      if binarySigns.contains (String.ofList second) && rest ≠ [] then do
        some (← binary? first second (rest.headD []), rest.tail)
      else if first = ['!'] then
        (truth? place steps .one (second :: rest)).map fun (value, rest) => (!value, rest)
      else if first = ['('] then do
        let (value, rest) ← truth? place steps .any (second :: rest)
        match rest with
        | [')'] :: rest => some (value, rest)
        | _ => none
      else if unarySigns.contains (String.ofList first) then do
        some (← unary? place first second, rest)
      else some (first ≠ [], second :: rest)

/-- The status of a test: zero if the condition holds, one if it does not, and two if it makes no
sense. Without a condition none holds. -/
def status (place : Place) (words : List Text) : Nat :=
  match words with
  | [] => 1
  | words =>
    match truth? place (4 * words.length + 4) .any words with
    | some (true, []) => 0
    | some (false, []) => 1
    | _ => 2

end HostEngine.Machine.Shell.Condition
