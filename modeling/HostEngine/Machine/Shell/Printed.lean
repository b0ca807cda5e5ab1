import HostEngine.Machine.Shell.Arithmetic
/-!
Texts that commands print: arguments with escapes in them, and formats whose places are filled with
arguments, as often as there are arguments left.
-/
set_option autoImplicit false

namespace HostEngine.Machine.Shell

def joined (between : Text) : List Text → Text
  | [] => []
  | [text] => text
  | text :: rest => text ++ between ++ joined between rest

namespace Printed

def letter? : Char → Option Char
  | 'a' => some '\x07'
  | 'b' => some '\x08'
  | 'f' => some '\x0C'
  | 'n' => some '\n'
  | 'r' => some '\r'
  | 't' => some '\t'
  | 'v' => some '\x0B'
  | '\\' => some '\\'
  | _ => none

def isOctal (c : Char) : Bool := '0' ≤ c && c ≤ '7'

def octal (digits : Text) : Char :=
  Char.ofNat ((digits.foldl (fun n c => n * 8 + (c.toNat - '0'.toNat)) 0) % 256)

/-- What an escape stands for, given what follows its backslash, and how many characters it takes
behind that. A backslash that begins no escape stands for itself. -/
def escape (rest : Text) : Char × Nat :=
  let digits := (rest.take 3).takeWhile isOctal
  if digits ≠ [] then (octal digits, digits.length)
  else
    match rest.head?.bind letter? with
    | some c => (c, 1)
    | none => ('\\', 0)

/-- An argument with its escapes resolved, and whether it ends all output; octal digits may stand
behind a zero. The first argument counts characters that an escape has taken. -/
def resolved : Nat → Text → Text × Bool
  | _, [] => ([], false)
  | taken + 1, _ :: rest => resolved taken rest
  | 0, c :: rest =>
    if c = '\\' then
      if rest.head? = some 'c' then ([], true)
      else
        let zero := rest.head? = some '0' && rest.tail.head?.any isOctal
        let (d, taken) := escape (if zero then rest.tail else rest)
        let (text, stopped) := resolved (if zero then taken + 1 else taken) rest
        (d :: text, stopped)
    else
      let (text, stopped) := resolved 0 rest
      (c :: text, stopped)

def echoed (arguments : List Text) : Text :=
  let (isOpen, arguments) := match arguments with
    | ['-', 'n'] :: arguments => (true, arguments)
    | arguments => (false, arguments)
  let (text, stopped) := resolved 0 (joined [' '] arguments)
  if isOpen || stopped then text else text ++ ['\n']

/-! ### Formats -/

structure Layout where
  flags : Text
  width : Nat
  precision : Option Nat

def Layout.pad (layout : Layout) (text : Text) : Text :=
  let blanks := List.replicate (layout.width - text.length) ' '
  if layout.flags.contains '-' then text ++ blanks else blanks ++ text

def Layout.text (layout : Layout) (text : Text) : Text :=
  layout.pad (match layout.precision with
    | some n => text.take n
    | none => text)

def Layout.digits (layout : Layout) (sign digits : Text) : Text :=
  let least := match layout.precision with
    | some n => n
    | none =>
      if layout.flags.contains '0' && !layout.flags.contains '-' then layout.width - sign.length
      else 1
  layout.pad (sign ++ List.replicate (least - digits.length) '0' ++ digits)

def Layout.number (layout : Layout) (letter : Char) (n : Int) : Text :=
  let isAlternate := layout.flags.contains '#'
  let unsigned := (n % Nat.pow 2 64).toNat
  if letter = 'd' || letter = 'i' then
    layout.digits
      (if n < 0 then ['-'] else if layout.flags.contains '+' then ['+']
        else if layout.flags.contains ' ' then [' '] else [])
      (Nat.toDigits 10 n.natAbs)
  else if letter = 'o' then
    let lead : Text := if isAlternate && unsigned ≠ 0 then ['0'] else []
    layout.digits [] (lead ++ Nat.toDigits 8 unsigned)
  else if letter = 'u' then layout.digits [] (Nat.toDigits 10 unsigned)
  else
    let sign := if isAlternate && unsigned ≠ 0 then ['0', letter] else []
    let digits := Nat.toDigits 16 unsigned
    layout.digits sign (if letter = 'X' then digits.map Char.toUpper else digits)

def leading (argument : Text) : Int × Bool :=
  match argument with
  | c :: d :: _ =>
    if c = '\x27' || c = '\x22' then ((d.toNat : Int), true)
    else
      let places := (List.range (argument.length + 1)).reverse
      match places.findSome? fun n => (Arithmetic.integer? (argument.take n)).map (·, n) with
      | some (value, n) => (value, n = argument.length)
      | none => (0, false)
  | _ =>
    match Arithmetic.integer? argument with
    | some value => (value, true)
    | none => (0, argument = [])

/-- What was printed: the text, the arguments that are left, whether an argument was no number, and
whether output is to stop; none of it, if a place makes no sense, follows that place. -/
structure Output where
  text : Text
  left : List Text
  isFaulty : Bool
  isStopped : Bool
  isBroken : Bool

def Output.after (output : Output) (text : Text) (isFaulty : Bool) : Output :=
  { output with text := text ++ output.text, isFaulty := isFaulty || output.isFaulty }

def size (text : Text) (arguments : List Text) : Option Int × Text × List Text :=
  match text with
  | '*' :: rest => (some (leading (arguments.headD [])).1, rest, arguments.tail)
  | text =>
    let digits := text.takeWhile Char.isDigit
    ((String.ofList digits).toNat?.map fun n => (n : Int), text.drop digits.length, arguments)

/-- The layout that stands behind a percent sign, with what is left of the format and of the
arguments. -/
def layout (format : Text) (arguments : List Text) : Layout × Text × List Text :=
  let flags := format.takeWhile ("#-+ 0".toList.contains ·)
  let (width, rest, arguments) := size (format.drop flags.length) arguments
  let flags := if (width.getD 0) < 0 then '-' :: flags else flags
  match rest with
  | '.' :: rest =>
    let (precision, rest, arguments) := size rest arguments
    (⟨flags, (width.getD 0).natAbs, some (precision.getD 0).toNat⟩, rest, arguments)
  | rest => (⟨flags, (width.getD 0).natAbs, none⟩, rest, arguments)

def fill : Nat → Text → List Text → Output
  | 0, _, arguments | _, [], arguments => ⟨[], arguments, false, false, false⟩
  | steps + 1, c :: rest, arguments =>
    if c = '\\' then
      let (d, taken) := escape rest
      (fill steps (rest.drop taken) arguments).after [d] false
    else if c ≠ '%' then (fill steps rest arguments).after [c] false
    else if rest.head? = some '%' then (fill steps rest.tail arguments).after ['%'] false
    else
      let (layout, rest, arguments) := layout rest arguments
      match rest with
      | [] => ⟨[], arguments, false, false, true⟩
      | letter :: rest =>
        let argument := arguments.headD []
        if letter = 's' then (fill steps rest arguments.tail).after (layout.text argument) false
        else if letter = 'c' then
          (fill steps rest arguments.tail).after (layout.text [argument.headD '\x00']) false
        else if letter = 'b' then
          let (text, stopped) := resolved 0 argument
          if stopped then ⟨layout.text text, [], false, true, false⟩
          else (fill steps rest arguments.tail).after (layout.text text) false
        else if "diouxX".toList.contains letter then
          let (n, isWhole) := if arguments = [] then (0, true) else leading argument
          (fill steps rest arguments.tail).after (layout.number letter n) (!isWhole)
        else ⟨[], arguments, false, false, true⟩

/-- Fills a format as often as there are arguments for it, at least once and at most `times` times
more. -/
def formatted (times : Nat) (format : Text) (arguments : List Text) : Output :=
  let output := fill (format.length + 1) format arguments
  match times with
  | 0 => output
  | times + 1 =>
    if output.left = [] || output.left.length = arguments.length || output.isStopped ||
        output.isBroken then output
    else (formatted times format output.left).after output.text output.isFaulty

def Output.status (output : Output) : Nat :=
  if output.isBroken then 2 else if output.isFaulty then 1 else 0

end Printed

end HostEngine.Machine.Shell
