import HostEngine.Machine.Shell.Reading
import HostEngine.Machine.Shell.World
/-!
A running shell: its variables, functions and traps, the status of the last command, and whether
commands go on.
-/
set_option autoImplicit false

namespace HostEngine.Machine.Shell

/-! ### Options -/

/-- How a shell runs: whether it ends at the first command that fails, whether a parameter must be
set to be used, whether commands are read only, whether names are left as patterns, and whether all
variables are handed on. -/
structure Manner where
  strict : Bool
  bound : Bool
  idle : Bool
  literal : Bool
  generous : Bool
  deriving DecidableEq, Repr

def Manner.plain : Manner := ⟨false, false, false, false, false⟩

def Manner.letters (manner : Manner) : Text :=
  [(manner.strict, 'e'), (manner.literal, 'f'), (manner.idle, 'n'), (manner.generous, 'a'),
    (manner.bound, 'u')].filterMap fun (value, letter) => if value then some letter else none

/-- Options as far as they are read: the manner, whether the script is an argument, and whether it
is the input. -/
structure Options where
  manner : Manner
  inArgument : Bool
  inInput : Bool

/-- Sets or clears the option of a letter; many letters change nothing that a script can see. -/
def Options.take? (options : Options) (value : Bool) (letter : Char) : Option Options :=
  let withManner (manner : Manner) : Option Options := some { options with manner }
  match letter with
  | 'e' => withManner { options.manner with strict := value }
  | 'u' => withManner { options.manner with bound := value }
  | 'n' => withManner { options.manner with idle := value }
  | 'f' => withManner { options.manner with literal := value }
  | 'a' => withManner { options.manner with generous := value }
  | 'c' => some { options with inArgument := value }
  | 's' => some { options with inInput := value }
  | _ => if "IimxvVEbC".toList.contains letter then some options else none

def optionNames : List (String × Char) :=
  [("errexit", 'e'), ("noglob", 'f'), ("ignoreeof", 'I'), ("interactive", 'i'), ("monitor", 'm'),
    ("noexec", 'n'), ("stdin", 's'), ("xtrace", 'x'), ("verbose", 'v'), ("vi", 'V'), ("emacs", 'E'),
    ("noclobber", 'C'), ("allexport", 'a'), ("notify", 'b'), ("nounset", 'u'), ("nolog", 'x'),
    ("debug", 'x')]

def Options.takeAll? (options : Options) (value : Bool) : Text → Option (Options × Bool)
  | [] => some (options, false)
  | ['o'] => some (options, true)
  | letter :: letters => (options.take? value letter).bind (·.takeAll? value letters)

/-- Reads the options in front of other arguments; a lone sign or a double one ends them. The first
argument tells whether the next word names an option that is set or cleared. -/
def Options.read? (options : Options) : Option Bool → List Text → Option (Options × List Text)
  | some value, name :: rest => do
    let (_, letter) ← optionNames.find? (·.1 = String.ofList name)
    (← options.take? value letter).read? none rest
  | some _, [] => some (options, [])
  | none, [] => some (options, [])
  | none, ['-'] :: rest | none, ['-', '-'] :: rest => some (options, rest)
  | none, ('-' :: letters) :: rest => do
    let (options, isNamed) ← options.takeAll? true letters
    options.read? (if isNamed then some true else none) rest
  | none, ('+' :: letters) :: rest => do
    let (options, isNamed) ← options.takeAll? false letters
    options.read? (if isNamed then some false else none) rest
  | none, arguments => some (options, arguments)

/-! ### State -/

/-- A variable: its value, if it has one, whether programs see it, and whether it can be changed. -/
structure Variable where
  value : Option Text
  exported : Bool
  fixed : Bool
  deriving DecidableEq, Repr

/-- Whether commands go on, or what they are left for: some loops, the next round of one, the end of
a function, or the end of the shell. A shell whose commands never end goes on forever. -/
inductive Flow where
  | onward
  | leaving (loops : Nat)
  | repeating (loops : Nat)
  | returning
  | ended (exit : Kernel.Exit)
  | endless
  deriving DecidableEq, Repr

structure State where
  world : World
  manner : Manner
  name : Text
  arguments : List Text
  bindings : List (Text × Variable)
  functions : List (Text × Command)
  /-- What is done at a signal, or at the end for the number zero; nothing for the empty text. -/
  traps : List (Kernel.Signal × Text)
  shell : Nat
  status : Nat
  /-- The status of the last script whose output was substituted in the current command. -/
  captured : Option Nat
  jobs : List Nat
  depth : Nat
  /-- The variables that the function being run hides, as they were before. -/
  hidden : List (Text × Option Variable)
  slept : Bool
  flow : Flow

def numeral (n : Nat) : Text := (decimal n).toList

namespace State

def isOnward (state : State) : Bool := state.flow = .onward

def endWith (state : State) (exit : Kernel.Exit) : State :=
  { state with flow := .ended exit }

def refuse (state : State) : State := { state with status := 2, flow := .ended (.code 2) }

/-! ### Variables -/

def setting? (state : State) (name : Text) : Option Text :=
  (state.bindings.lookup name).bind Variable.value

def put (state : State) (name : Text) (entry : Variable) : State :=
  { state with bindings := (name, entry) :: state.bindings.filter (·.1 ≠ name) }

def get (state : State) (name : Text) : Variable :=
  (state.bindings.lookup name).getD ⟨none, state.manner.generous, false⟩

/-- The state after a variable is set; one that is fixed cannot be. -/
def assign (state : State) (name value : Text) : State :=
  let entry := state.get name
  if entry.fixed then state.refuse
  else state.put name { entry with
    value := some value, exported := entry.exported || state.manner.generous }

def environment (state : State) : List (Octets × Octets) :=
  state.bindings.filterMap fun (name, entry) =>
    match entry.value with
    | some value => if entry.exported then some (name.octets, value.octets) else none
    | none => none

def dividers (state : State) : Text :=
  (state.setting? "IFS".toList).getD [' ', '\t', '\n']

/-! ### Parameters -/

def value? (state : State) : Parameter → Option Text
  | .positional 0 => some state.name
  | .positional (index + 1) => state.arguments[index]?
  | .all separate =>
    let between := if separate then [' '] else state.dividers.take 1
    if state.arguments = [] then none else some (joined between state.arguments)
  | .count => some (numeral state.arguments.length)
  | .status => some (numeral state.status)
  | .pid => some (numeral state.shell)
  | .background => state.jobs.head?.map numeral
  | .flags => some state.manner.letters
  | .variable name => state.setting? name
where
  joined (between : Text) : List Text → Text
    | [] => []
    | [text] => text
    | text :: rest => text ++ between ++ joined between rest

def demands (state : State) : Parameter → Bool
  | .all _ => false
  | _ => state.manner.bound

/-! ### Ends -/

def exitStatus : Kernel.Exit → Nat
  | .code n => n
  | .signal signal => 128 + signal.number

def launchStatus (errno : Kernel.Errno) : Nat :=
  if errno = .noEntry || errno = .notDirectory then 127 else 126

def exit (state : State) : Kernel.Exit :=
  match state.flow with
  | .ended exit => exit
  | _ => .code state.status

def fresh (world : World) (manner : Manner) (name : Text) (arguments : List Text) : State :=
  let handed := world.environment.map fun (name, value) =>
    (Text.ofOctets name, (⟨some (Text.ofOctets value), true, false⟩ : Variable))
  let own (name value : String) : Text × Variable :=
    (name.toList, ⟨some value.toList, false, false⟩)
  let place := (world.directory.name?.map Text.ofOctets).getD []
  -- What the shell sets itself is handed on if the environment had it.
  let anew (name : String) (value : Text) : Text × Variable :=
    (name.toList, ⟨some value, (handed.lookup name.toList).isSome, false⟩)
  let given (name : Text) : Bool := ["PWD", "PPID", "IFS"].any fun set => set.toList = name
  { world, manner, name, arguments
    bindings :=
      anew "PWD" place :: anew "PPID" (numeral world.parent) :: own "IFS" " \t\n" ::
        own "OPTIND" "1" :: handed.filter fun (name, _) => isName name && !given name
    functions := [], traps := world.ignored.map (·, []), shell := world.pid, status := 0
    captured := none, jobs := [], depth := 0, hidden := [], slept := false, flow := .onward }

end State

end HostEngine.Machine.Shell
