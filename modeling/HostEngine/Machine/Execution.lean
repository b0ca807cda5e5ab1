import HostEngine.Machine.Shell.Invocation
/-!
Starting programs: where a program is looked for, which files can be executed, and which program
runs a script.
-/
set_option autoImplicit false

namespace HostEngine.Machine.Execution

open Shell (World Outcome Text)

def headLength : Nat := 255

/-- The program and its first argument that the first line of a script asks for. A line that is
longer than what is looked at must name its program within that; the argument is cut. -/
def interpreter? (content : Octets) : Option (Octets × List Octets) :=
  match Text.ofOctets (content.take headLength) with
  | '#' :: '!' :: text =>
    let isGap (c : Char) : Bool := c = ' ' || c = '\t'
    let line := (text.takeWhile (· ≠ '\n')).dropWhile isGap
    let line := (line.reverse.dropWhile isGap).reverse
    let program := line.takeWhile fun c => !isGap c && c ≠ '\x00'
    let argument :=
      (((line.drop program.length).dropWhile isGap).takeWhile (· ≠ '\x00'))
    let isCut := headLength ≤ content.length && !text.contains '\n' &&
      !((text.dropWhile isGap).any fun c => isGap c || c = '\x00')
    if program = [] || isCut then none
    else some (Text.octets program, if argument = [] then [] else [Text.octets argument])
  | _ => none

def colon : UInt8 := 0x3A

def defaultSearchList : Octets := .ofString "/bin:/usr/bin"

def searchList (environment : List (Octets × Octets)) : Octets :=
  (environment.lookup (.ofString "PATH")).getD defaultSearchList

def candidates (environment : List (Octets × Octets)) (program : Octets) : List Octets :=
  ((searchList environment).splitOn colon).map fun entry =>
    if entry = [] then program else entry ++ slash :: program

def isSkipped (errno : Kernel.Errno) : Bool :=
  errno = .accessDenied || errno = .noEntry || errno = .notDirectory

/-- The first attempt that neither fails nor is skipped; if all are skipped, whether access was
denied decides the fault. -/
def firstOf {α : Type} (attempt : Octets → Except Kernel.Errno α) (denied : Bool) :
    List Octets → Except Kernel.Errno α
  | [] => .error (if denied then .accessDenied else .noEntry)
  | candidate :: rest =>
    match attempt candidate with
    | .ok result => .ok result
    | .error errno =>
      if isSkipped errno then firstOf attempt (denied || errno = .accessDenied) rest
      else .error errno

/-- Tries the files that a program's name can mean: the name itself if it has a slash, else the
name in every entry of the search list. -/
def search {α : Type} (environment : List (Octets × Octets)) (program : Octets)
    (attempt : Octets → Except Kernel.Errno α) : Except Kernel.Errno α :=
  if program.contains slash then attempt program
  else if program = [] then .error .noEntry
  else if 255 < program.length then .error .nameTooLong
  else firstOf attempt false (candidates environment program)

def executable (world : World) (file : Octets) : Except Kernel.Errno Entry :=
  match world.files.find world.directory file with
  | .error errno => .error errno
  | .ok (_, entry) => if entry.isExecutable then .ok entry else .error .accessDenied

def shellFile : Octets := .ofString "/bin/sh"

/-- Runs a file under a name; `depth` bounds how many programs can run each other. -/
def execute : Nat → World → Octets → Octets → List Octets → Except Kernel.Errno Outcome
  | depth, world, name, file, arguments =>
    match executable world file with
    | .error errno => .error errno
    | .ok (.program .shell) =>
      match depth with
      | 0 => .error .tooManyLinks
      | depth + 1 =>
        .ok (Shell.runShell (launch depth) world (Text.ofOctets name)
          (arguments.map Text.ofOctets))
    | .ok (.program .launcher) =>
      match depth with
      | 0 => .error .tooManyLinks
      | depth + 1 =>
        let texts := Shell.launchArguments (arguments.map Text.ofOctets)
        let ending (world : World) (status : Nat) : Outcome :=
          ⟨world.files, world.processes, .code status, false⟩
        match Shell.launchRequest? world.environment texts with
        | none => .ok (ending world 125)
        | some (environment, []) =>
          .ok (ending (world.print (Shell.environmentText environment)).1 0)
        | some (environment, program :: rest) =>
          match launch depth { world with environment } (Text.octets program)
              (rest.map Text.octets) with
          | .ok outcome => .ok outcome
          | .error errno => .ok (ending world (Shell.State.launchStatus errno))
    | .ok (.program tool) =>
      let (world, status, slept) := Shell.runTool tool world (arguments.map Text.ofOctets)
      .ok ⟨world.files, world.processes, .code status, slept⟩
    | .ok (.file _ content) =>
      match interpreter? content with
      | none => .error .execFormat
      | some (program, argument) =>
        match depth with
        | 0 => .error .tooManyLinks
        | depth + 1 => execute depth world program program (argument ++ file :: arguments)
    | .ok _ => .error .execFormat
where
  /-- Runs a program as another program does: what cannot be executed is taken for a script. -/
  launch (depth : Nat) (world : World) (program : Octets) (arguments : List Octets) :
      Except Kernel.Errno Outcome :=
    search world.environment program fun file =>
      match execute depth world program file arguments with
      | .error errno =>
        if errno = .execFormat then
          execute depth world shellFile shellFile (file :: arguments)
        else .error errno
      | result => result

def depthLimit : Nat := 40

def argumentLimit : Nat := 131072

def run (world : World) (program : Octets) (arguments : List Octets) :
    Except Kernel.Fault Outcome :=
  if program.hasNul || arguments.any Octets.hasNul then .error .nulInArgument
  else
    let outcome := search world.environment program fun file =>
      (executable world file).bind fun _ =>
        if (program :: arguments).any (argumentLimit ≤ ·.length) then .error .argumentsTooLong
        else execute depthLimit world program file arguments
    outcome.mapError .system

end HostEngine.Machine.Execution
