import HostEngine.Machine.Files.Edit
import HostEngine.Machine.Shell.Condition
import HostEngine.Machine.Shell.Printed
import HostEngine.Machine.Shell.World
/-!
Tools that come with the system and run no other programs.
-/
set_option autoImplicit false

namespace HostEngine.Machine.Shell

/-! ### Signals -/

def signal? (text : Text) : Option Kernel.Signal :=
  if text ≠ [] && text.all Char.isDigit then
    (String.ofList text).toNat?.bind fun n => if n < Kernel.Signal.bound then some ⟨n⟩ else none
  else if text.map Char.toUpper = "EXIT".toList then some ⟨0⟩
  else Kernel.Signal.ofName? (String.ofList (text.map Char.toUpper))

def signalRequest? : List Text → Option (Kernel.Signal × List Text)
  | ['-', 's'] :: name :: pids => (signal? name).map (·, pids)
  | ['-', '-'] :: pids => some (.terminate, pids)
  | ('-' :: name) :: ['-', '-'] :: pids => (signal? name).map (·, pids)
  | ('-' :: name) :: pids => (signal? name).map (·, pids)
  | pids => some (.terminate, pids)

def sendSignals (world : World) (arguments : List Text) : World × Nat :=
  match signalRequest? arguments with
  | none | some (_, []) => (world, 2)
  | some (signal, pids) =>
    pids.foldl (fun (world, status) pid =>
      match Condition.number? pid with
      | none => (world, 2)
      | some number =>
        match world.send number signal with
        | .ok world => (world, status)
        | .error _ => (world, max status 1)) (world, 0)

/-! ### Files -/

def optionLetters : List Text → Text × List Text
  | ['-', '-'] :: rest => ([], rest)
  | ('-' :: c :: letters) :: rest =>
    let (more, others) := optionLetters rest
    (c :: letters ++ more, others)
  | arguments => ([], arguments)

/-- Changes files under one name after the other, and gives the status: one if a change failed. -/
def changeEach (world : World) (names : List Text)
    (change : Files → Octets → Except Kernel.Errno Files) : World × Nat :=
  names.foldl (fun (world, status) name =>
    match change world.files name.octets with
    | .ok files => ({ world with files }, status)
    | .error _ => (world, 1)) (world, if names = [] then 1 else 0)

def changeTo (world : World) (names : List Text)
    (change : Files → Octets → Octets → Except Kernel.Errno Files) : World × Nat :=
  match names.getLast? with
  | none => (world, 1)
  | some last => changeEach world names.dropLast fun files name => change files name last.octets

def removeAll (world : World) (letters : Text) (names : List Text) : World × Nat :=
  let isForced := letters.contains 'f'
  let isDeep := letters.contains 'r' || letters.contains 'R'
  if names = [] then (world, if isForced then 0 else 1)
  else changeEach world names fun files name =>
    match (if isDeep then files.removeTree world.directory name
      else files.unlink world.directory name) with
    | .error errno =>
      if isForced && (errno = .noEntry || errno = .notDirectory) then .ok files else .error errno
    | result => result

/-- Whether a text of permissions lets a file be executed; none if it says nothing about that. -/
def permits? (mode : Text) : Option Bool :=
  if mode.all Char.isDigit then some (mode.any fun c => (c.toNat - '0'.toNat) % 2 = 1)
  else if !mode.contains 'x' then none
  else some !(mode.contains '-')

/-! ### Texts -/

def baseName (name : Text) : Text :=
  let trimmed := (name.reverse.dropWhile (· = '/')).reverse
  if trimmed = [] then name.take 1 else (trimmed.reverse.takeWhile (· ≠ '/')).reverse

def directoryName (name : Text) : Text :=
  let trimmed := (name.reverse.dropWhile (· = '/')).dropWhile (· ≠ '/')
  let head := (trimmed.dropWhile (· = '/')).reverse
  if head ≠ [] then head else if name.head? = some '/' then ['/'] else ['.']

def isPause (text : Text) : Bool :=
  let number := match text.getLast? with
    | some c => if "smhd".toList.contains c then text.dropLast else text
    | none => text
  let digits := number.filter (· ≠ '.')
  text = "infinity".toList || text = "inf".toList ||
    (digits ≠ [] && digits.all Char.isDigit && number.length ≤ digits.length + 1)

/-- The contents of files, or what can be read from the input; a hyphen stands for the input. -/
def contents (world : World) (names : List Text) : Text × Nat :=
  if names = [] then (Text.ofOctets (world.readable 0), 0)
  else
    names.foldl (fun (text, status) name =>
      if name = ['-'] then (text ++ Text.ofOctets (world.readable 0), status)
      else
        match world.files.read world.directory (Text.octets name) with
        | .ok content => (text ++ Text.ofOctets content, status)
        | .error _ => (text, 1)) ([], 0)

def firstLines : Nat → Text → Text
  | 0, _ => []
  | n + 1, text =>
    match text.dropWhile (· ≠ '\n') with
    | [] => text
    | _ :: rest => text.takeWhile (· ≠ '\n') ++ '\n' :: firstLines n rest

def lineCount : List Text → Nat × List Text
  | ['-', 'n'] :: n :: rest => ((String.ofList n).toNat?.getD 10, rest)
  | ('-' :: 'n' :: n) :: rest => ((String.ofList n).toNat?.getD 10, rest)
  | ('-' :: n) :: rest =>
    if n ≠ [] && n.all Char.isDigit then ((String.ofList n).toNat?.getD 10, rest)
    else (10, ('-' :: n) :: rest)
  | arguments => (10, arguments)

def numbers? (arguments : List Text) : Option (List Int) := do
  match ← arguments.mapM Condition.number? with
  | [last] => some ((List.range last.toNat).map fun (n : Nat) => (n : Int) + 1)
  | [first, last] =>
    some ((List.range (last - first + 1).toNat).map fun (n : Nat) => (n : Int) + first)
  | _ => none

def echoedPlainly : List Text → Text
  | ['-', 'e'] :: rest => Printed.echoed rest
  | ['-', 'n'] :: rest => joined [' '] rest
  | arguments => joined [' '] arguments ++ ['\n']

/-! ### Running -/

def printed (world : World) (text : Text) (status : Nat) : World × Nat × Bool :=
  let (world, isDone) := world.print text
  (world, if isDone then status else max status 1, false)

def printedFormat (world : World) (arguments : List Text) : World × Nat × Bool :=
  match (match arguments with | ['-', '-'] :: rest => rest | arguments => arguments) with
  | [] => (world, 2, false)
  | format :: rest =>
    let output := Printed.formatted rest.length format rest
    printed world output.text output.status

/-- Runs a tool that runs no other: the world after it, its status, and whether it slept. -/
def runTool (tool : Tool) (world : World) (arguments : List Text) : World × Nat × Bool :=
  let directory := world.directory
  let (letters, operands) := optionLetters arguments
  let quietly (result : World × Nat) : World × Nat × Bool := (result.1, result.2, false)
  match tool with
  | .shell | .launcher | .succeed | .inert => (world, 0, false)
  | .fail => (world, 1, false)
  | .sleep =>
    if arguments = [] || !arguments.all isPause then (world, 1, false)
    else (world, 0, arguments.any fun text =>
      text.head? = some 'i' || text.any fun c => c.isDigit && c ≠ '0')
  | .echo => printed world (echoedPlainly arguments) 0
  | .print => printedFormat world arguments
  | .concatenate =>
    let (text, status) := contents world operands
    printed world text status
  | .first =>
    let (n, names) := lineCount arguments
    let (text, status) := contents world names
    printed world (firstLines n text) status
  | .test =>
    let words := if arguments.getLast? = some [']'] then arguments.dropLast else arguments
    (world, Condition.status ⟨world.files, directory⟩ words, false)
  | .signal =>
    let (world, status) := sendSignals world arguments
    (world, min status 1, false)
  | .remove => quietly (removeAll world letters operands)
  | .touch => quietly <| changeEach world operands fun files name =>
    match files.create directory name with
    | .error .alreadyThere => .ok files
    | result => result.map (·.1)
  | .makeDirectory => quietly <| changeEach world operands fun files name =>
    if letters.contains 'p' then files.makeAllDirectories directory name
    else files.makeDirectory directory name
  | .removeDirectory => quietly <| changeEach world operands fun files name =>
    files.removeDirectory directory name
  | .copy => quietly <| changeTo world operands fun files source name =>
    files.copy directory source name
  | .move => quietly <| changeTo world operands fun files source name =>
    files.move directory source name
  | .link => quietly <| changeTo world operands fun files source name =>
    files.link directory (letters.contains 's') source name
  | .permit =>
    match arguments with
    | mode :: names => quietly <| changeEach world names fun files name =>
      match permits? mode with
      | some executable => files.setExecutable directory name executable
      | none => .ok files
    | [] => (world, 1, false)
  | .baseName =>
    match arguments with
    | [] => (world, 1, false)
    | name :: rest =>
      let base := baseName name
      let ending := rest.headD []
      let base := if ending ≠ base && ending.isSuffixOf base then
          base.take (base.length - ending.length) else base
      printed world (base ++ ['\n']) 0
  | .directoryName =>
    if arguments = [] then (world, 1, false)
    else printed world (arguments.flatMap fun name => directoryName name ++ ['\n']) 0
  | .workingDirectory =>
    match directory.name? with
    | some name => printed world (Text.ofOctets name ++ ['\n']) 0
    | none => (world, 1, false)
  | .count =>
    match numbers? arguments with
    | some ns => printed world (ns.flatMap fun n => (signedDecimal n).toList ++ ['\n']) 0
    | none => (world, 1, false)

end HostEngine.Machine.Shell
