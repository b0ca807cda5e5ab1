import HostEngine.Text.Octets
/-!
Commands of the shell: words that are expanded when a command runs, redirections, and the ways in
which commands are put together. Texts hold one character per octet.
-/
set_option autoImplicit false

namespace HostEngine.Machine.Shell

/-- A text with one character per octet. -/
abbrev Text := List Char

def Text.octets (text : Text) : Octets := text.map fun c => c.toNat.toUInt8

def Text.ofOctets (octets : Octets) : Text := octets.map fun octet => Char.ofNat octet.toNat

inductive Parameter where
  | positional (index : Nat)
  | all (separate : Bool)
  | count
  | status
  | pid
  | background
  | flags
  | variable (name : Text)
  deriving DecidableEq, Repr

/-- What is made of a parameter. The flag of the middle four tells whether an empty value counts as
none; that of a trimming one, whether the longest fitting part is taken away. -/
inductive Operation where
  | value
  | length
  | fallback (evenIfEmpty : Bool)
  | assignment (evenIfEmpty : Bool)
  | demand (evenIfEmpty : Bool)
  | alternative (evenIfEmpty : Bool)
  | trimEnd (longest : Bool)
  | trimStart (longest : Bool)
  deriving DecidableEq, Repr

/-- A part of a word. What is quoted is neither split nor dropped when empty. Operands, expressions
and scripts inside a word are read when they are used. -/
inductive Part where
  | literal (text : Text) (quoted : Bool)
  | parameter (parameter : Parameter) (operation : Operation) (operand : Text) (quoted : Bool)
  | arithmetic (expression : Text) (quoted : Bool)
  | output (script : Text) (quoted : Bool)
  deriving DecidableEq, Repr

abbrev Word := List Part

inductive Direction where
  | write
  | append
  | read
  | duplicate
  | text
  deriving DecidableEq, Repr

structure Redirection where
  stream : Nat
  direction : Direction
  target : Word
  deriving DecidableEq, Repr

/-- A command. The branches of a selection are a chain of their own. -/
inductive Command where
  | nothing
  | simple (assignments : List (Text × Word)) (words : List Word)
      (redirections : List Redirection)
  | sequence (first second : Command)
  | both (first second : Command)
  | either (first second : Command)
  | negated (command : Command)
  | piped (first second : Command)
  | background (command : Command)
  | subshell (command : Command)
  | redirected (command : Command) (redirections : List Redirection)
  | choice (condition whenTrue whenFalse : Command)
  | loop (whileTrue : Bool) (condition body : Command)
  | each (name : Text) (words : Option (List Word)) (body : Command)
  | selection (subject : Word) (branches : Command)
  | branch (patterns : List Word) (body others : Command)
  | function (name : Text) (body : Command)
  deriving DecidableEq, Repr

end HostEngine.Machine.Shell
