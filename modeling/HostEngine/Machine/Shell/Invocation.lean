import HostEngine.Machine.Shell.Running
/-!
How programs that run others are asked to do so: the shell with its options, and the launcher that
changes the environment.
-/
set_option autoImplicit false

namespace HostEngine.Machine.Shell

/-! ### The shell -/

def stepLimit : Nat := 4000

def State.outcome (state : State) : Outcome :=
  ⟨state.world.files, state.world.processes, state.exit, state.slept || state.flow = .endless⟩

def unable (world : World) : Outcome := ⟨world.files, world.processes, .code 2, false⟩

def runScript (launch : Launch) (world : World) (manner : Manner) (name : Text)
    (arguments : List Text) (script : Text) : Outcome :=
  let runner := State.run launch stepLimit
  (State.finish runner
    (State.runText runner false (.fresh world manner name arguments) script)).outcome

def runShell (launch : Launch) (world : World) (name : Text) (arguments : List Text) : Outcome :=
  match Options.read? ⟨.plain, false, false⟩ none arguments with
  | none => unable world
  | some (options, arguments) =>
    let run := runScript launch world options.manner
    let input := Text.ofOctets (world.readable 0)
    match arguments with
    | [] => if options.inArgument then unable world else run name [] input
    | first :: rest =>
      if options.inArgument then run (rest.headD name) rest.tail first
      else if options.inInput then run name arguments input
      else
        match world.files.read world.directory first.octets with
        | .ok content => run first rest (Text.ofOctets content)
        | .error _ => unable world

/-! ### The launcher -/

/-- An environment as the arguments of a launcher change it, and the command that is to be run: `-i`
or a lone hyphen empties it, `-u` removes a variable, and an assignment sets one. -/
def launchRequest? (environment : List (Octets × Octets)) :
    List Text → Option (List (Octets × Octets) × List Text)
  | [] => some (environment, [])
  | ['-'] :: rest | ['-', 'i'] :: rest => launchRequest? [] rest
  | ['-', 'u'] :: name :: rest =>
    launchRequest? (environment.filter (·.1 ≠ name.octets)) rest
  | ['-', '-'] :: rest => some (environment, rest)
  | word :: rest =>
    if word.head? = some '-' then none
    else if word.contains '=' then
      let name := Text.octets (word.takeWhile (· ≠ '='))
      let value := Text.octets (word.dropWhile (· ≠ '=')).tail
      launchRequest? ((name, value) :: environment.filter (·.1 ≠ name)) rest
    else some (environment, word :: rest)

def launchArguments : List Text → List Text
  | ('-' :: 'S' :: text) :: rest => (text.splitOn ' ').filter (· ≠ []) ++ rest
  | arguments => arguments

def environmentText (environment : List (Octets × Octets)) : Text :=
  environment.flatMap fun (name, value) =>
    Text.ofOctets name ++ '=' :: Text.ofOctets value ++ ['\n']

end HostEngine.Machine.Shell
