import HostEngine.Machine.Shell.Expansion
import HostEngine.Machine.Shell.Tools
/-!
Running shell commands. A command changes files, sets a status and may end the shell; how other
programs are run is a parameter. Commands run within a number of steps; those that do not end within
them go on forever.
-/
set_option autoImplicit false

namespace HostEngine.Machine.Shell.State

/-- A way to run commands; the first argument tells whether the status is asked for by a command
around. -/
abbrev Runner := Bool → State → Command → State

/-! ### Scripts -/

def runLines (runner : Runner) (asked : Bool) : Nat → State → List Token → State
  | 0, state, _ => state
  | lines + 1, state, tokens =>
    match skipNewlines tokens with
    | [] => state
    | tokens =>
      if !state.isOnward then state
      else
        match Command.next? tokens with
        | none => state.refuse
        | some (command, rest) =>
          runLines runner asked lines
            (if state.manner.idle then state else runner asked state command) rest

def runText (runner : Runner) (asked : Bool) (state : State) (text : Text) : State :=
  let tokens := tokens text
  runLines runner asked (tokens.length + 1) state tokens

/-! ### Signals -/

/-- What a signal does to the shell: nothing if not noticed, what is set for it, or its end. -/
def receive (runner : Runner) (state : State) (signal : Kernel.Signal) : State :=
  let isFree := signal == .kill || signal == .halt
  match if isFree then none else state.traps.lookup signal with
  | some [] => state
  | some action =>
    let after := runText runner true state action
    if after.isOnward then { after with status := state.status } else after
  | none =>
    if signal.number = 0 || signal.isHarmless || signal.isStopping then state
    else state.endWith (.signal signal)

def notice (runner : Runner) (state : State) : State :=
  match state.world.processes.blow? with
  | none => state
  | some signal =>
    let revived := { state with world := { state.world with
      processes := state.world.processes.revived } }
    if state.isOnward then receive runner revived signal else revived

def finish (runner : Runner) (state : State) : State :=
  match state.traps.lookup ⟨0⟩, state.flow with
  | some [], _ | none, _ | _, .endless | _, .ended (.signal _) => state
  | some action, _ =>
    let exit := state.exit
    let after := runText runner true
      { state with
        traps := state.traps.filter (·.1.number ≠ 0), flow := .onward, status := exitStatus exit }
      action
    if after.isOnward then after.endWith exit else after

/-! ### Programs and subshells -/

def launchWorld (state : State) : World :=
  { state.world.forked with
    environment := state.environment
    ignored := (state.traps.filter (·.2 = [])).map (·.1) }

def afterProgram (runner : Runner) (state : State) (outcome : Outcome) : State :=
  notice runner { state with
    world := state.world.joined outcome.files outcome.processes
    status := exitStatus outcome.exit
    slept := state.slept || outcome.slept }

def runProgram (launch : Launch) (runner : Runner) (state : State) (name : Text)
    (arguments : List Text) : State :=
  match launch state.launchWorld name.octets (arguments.map Text.octets) with
  | .error errno => { state with status := launchStatus errno }
  | .ok outcome => state.afterProgram runner outcome

/-- Puts another program in the shell's place. -/
def replace (launch : Launch) (state : State) (name : Text) (arguments : List Text) : State :=
  let world := { state.launchWorld with
    processes := state.world.processes, parent := state.world.parent }
  match launch world name.octets (arguments.map Text.octets) with
  | .error errno => state.endWith (.code (launchStatus errno))
  | .ok outcome => { state with
      world := { state.world with files := outcome.files, processes := outcome.processes }
      slept := state.slept || outcome.slept
      flow := .ended outcome.exit }

def within (state : State) (world : World) : State :=
  { state with world, traps := state.traps.filter (·.2 = []), depth := 0 }

def runWithin (runner : Runner) (asked : Bool) (state : State) (world : World)
    (command : Command) : State :=
  finish runner (runner asked (state.within world) command)

def afterSubshell (runner : Runner) (state inside : State) : State :=
  let after := notice runner { state with
    world := state.world.joined inside.world.files inside.world.processes
    status := exitStatus inside.exit
    slept := state.slept || inside.slept }
  if inside.flow = .endless then { after with flow := .endless } else after

/-- The output of a script without line ends at its end. -/
def capture (runner : Runner) (state : State) (script : Text) : State × Text :=
  let (world, pipe) := state.world.forked.piped
  let inside := finish runner (runText runner false (state.within world) script)
  let (content, files) := World.drained inside.world.files pipe
  let after := state.afterSubshell runner
    { inside with world := { inside.world with files } }
  ({ after with captured := some (exitStatus inside.exit) },
    ((Text.ofOctets content).reverse.dropWhile (· = '\n')).reverse)

def runPiped (runner : Runner) (asked : Bool) (state : State) (first second : Command) : State :=
  let (world, pipe) := state.world.forked.piped
  let inside := state.runWithin runner asked world first
  let (content, files) := World.drained inside.world.files pipe
  let between := state.afterSubshell runner
    { inside with world := { inside.world with files } }
  if !between.isOnward then between
  else
    let world := between.world.forked.withStream 0 (.source content)
    between.afterSubshell runner (between.runWithin runner asked world second)

def runAside (runner : Runner) (state : State) (command : Command) : State :=
  let world := state.world.forked.withStream 0 (.source [])
  let inside := state.runWithin runner false world command
  let pid := world.pid
  let condition : Condition :=
    if inside.slept || inside.flow = .endless then .running inside.exit else .ended inside.exit
  let processes := (inside.world.processes.settle pid condition).seenBy state.world.pid
  notice runner { state with
    world := { state.world with files := inside.world.files, processes }
    jobs := pid :: state.jobs
    status := 0 }

/-! ### Commands of the shell itself -/

/-- The commands whose faults end the shell. -/
def specialNames : List String :=
  [".", ":", "break", "continue", "eval", "exec", "exit", "export", "readonly", "return", "set",
    "shift", "times", "trap", "unset"]

def count? (text : Text) : Option Nat := do
  let n ← Condition.number? text
  if 0 ≤ n && n < Nat.pow 2 31 then some n.toNat else none

def adjust (state : State) (arguments : List Text) : State :=
  match Options.read? ⟨state.manner, false, false⟩ none arguments with
  | none => state.refuse
  | some (options, rest) =>
    let keeps := rest = [] && !arguments.contains ['-', '-']
    { state with
      manner := options.manner
      arguments := if keeps then state.arguments else rest
      status := 0 }

def setTraps (state : State) (arguments : List Text) : State :=
  let change (action : Option Text) (names : List Text) : State :=
    match names.mapM signal? with
    | none => { state with status := 1 }
    | some signals =>
      let others := state.traps.filter fun (signal, _) => !signals.contains signal
      { state with
        traps := (action.map fun action => signals.map (·, action)).getD [] ++ others
        status := 0 }
  match (match arguments with | ['-', '-'] :: rest => rest | arguments => arguments) with
  | [] => { state with status := 0 }
  | [name] => change none [name]
  | action :: names =>
    if action = ['-'] || (action ≠ [] && action.all Char.isDigit) then
      change none (if action = ['-'] then names else action :: names)
    else change (some action) names

def skipDividers (dividers : Text) (line : List Glyph) : List Glyph :=
  line.dropWhile fun g => !g.quoted && dividers.contains g.char

def lineFields (dividers : Text) : Nat → List Glyph → List Text
  | 0, _ => []
  | 1, line =>
    [plainText (skipDividers dividers (skipDividers dividers line).reverse).reverse]
  | n + 2, line =>
    let line := skipDividers dividers line
    let field := line.takeWhile fun g => g.quoted || !dividers.contains g.char
    plainText field :: lineFields dividers (n + 1) (line.drop (field.length + 1))

/-- A line of the input, in which backslashes protect characters unless they are left, with the
number of characters it takes, and whether it is whole. -/
def inputLine (isRaw : Bool) : Text → List Glyph × Nat × Bool
  | [] => ([], 0, false)
  | '\\' :: c :: rest =>
    if isRaw then
      let (line, n, isWhole) := inputLine isRaw (c :: rest)
      (⟨'\\', false⟩ :: line, n + 1, isWhole)
    else
      let (line, n, isWhole) := inputLine isRaw rest
      (if c = '\n' then line else ⟨c, true⟩ :: line, n + 2, isWhole)
  | c :: rest =>
    if c = '\n' then ([], 1, true)
    else
      let (line, n, isWhole) := inputLine isRaw rest
      (⟨c, false⟩ :: line, n + 1, isWhole)

/-- Reads a line of the input into variables; the status tells whether there was a whole line. -/
def readLine (state : State) (arguments : List Text) : State :=
  let (letters, names) := optionLetters arguments
  let content := Text.ofOctets (state.world.readable 0)
  let (line, n, isWhole) := inputLine (letters.contains 'r') content
  let state := { state with
    world := state.world.withStream 0 (.source (Text.octets (content.drop n)))
    status := if isWhole then 0 else 1 }
  (names.zip (lineFields state.dividers names.length line)).foldl
    (fun state (name, value) => state.assign name value) state

def enter (state : State) (arguments : List Text) : State :=
  let target := match (optionLetters arguments).2 with
    | [] => state.setting? "HOME".toList
    | ['-'] :: _ => state.setting? "OLDPWD".toList
    | name :: _ => some name
  match target with
  | none => { state with status := 2 }
  | some name =>
    match state.world.files.find state.world.directory name.octets with
    | .ok (path, .directory) =>
      let before := (state.setting? "PWD".toList).getD []
      let state := { state with
        world := { state.world with directory := ⟨path, false⟩ }, status := 0 }
      (state.assign "OLDPWD".toList before).assign "PWD".toList (Text.ofOctets path.name)
    | _ => { state with status := 2 }

def mark (state : State) (change : Variable → Variable) (arguments : List Text) : State :=
  (optionLetters arguments).2.foldl (fun state argument =>
    let name := argument.takeWhile (· ≠ '=')
    if !isName name then state.refuse
    else
      let state := match argument.dropWhile (· ≠ '=') with
        | _ :: value => state.assign name value
        | [] => state
      state.put name (change (state.get name))) { state with status := 0 }

/-- Remembers what variables hold, for the end of a function. -/
def hide (state : State) (names : List Text) : State :=
  { state with hidden := names.map (fun name => (name, state.bindings.lookup name)) ++
      state.hidden }

def forget (state : State) (arguments : List Text) : State :=
  let (letters, names) := optionLetters arguments
  names.foldl (fun state name =>
    if letters.contains 'f' then
      { state with functions := state.functions.filter (·.1 ≠ name) }
    else if (state.get name).fixed || !isName name then state.refuse
    else { state with bindings := state.bindings.filter (·.1 ≠ name) })
    { state with status := 0 }

def await (state : State) (arguments : List Text) : State :=
  let condition? (pid : Nat) : Option Condition :=
    if state.jobs.contains pid then
      (state.world.processes.find? pid).map Process.condition
    else none
  let status (text : Text) : Nat :=
    match ((Condition.number? text).map Int.toNat).bind condition? with
    | some condition => exitStatus condition.exit
    | none => 127
  let runs (pid : Nat) : Bool :=
    match condition? pid with
    | some (.running _) => true
    | _ => false
  { state with
    status := (arguments.getLast?.map status).getD 0
    slept := state.slept || state.jobs.any runs }

def describe (state : State) (names : List Text) : State :=
  let own := specialNames ++ ["cd", "command", "echo", "false", "kill", "printf", "pwd", "read",
    "test", "[", "true", "type", "umask", "wait"]
  let place? (name : Text) : Option Text :=
    if own.contains (String.ofList name) || (state.functions.lookup name).isSome then some name
    else if name.contains '/' then
      match state.world.files.find state.world.directory name.octets with
      | .ok (_, entry) => if entry.isExecutable then some name else none
      | .error _ => none
    else
      (((state.setting? "PATH".toList).getD []).splitOn ':').findSome? fun entry =>
        let file := entry ++ '/' :: name
        match state.world.files.find state.world.directory (Text.octets file) with
        | .ok (_, found) => if found.isExecutable then some file else none
        | .error _ => none
  let found := names.map place?
  let (world, _) := state.world.print
    (found.flatMap fun place => (place.map (· ++ ['\n'])).getD [])
  { state with world, status := if found.all Option.isSome then 0 else 127 }

def runOwn (state : State) (tool : Tool) (arguments : List Text) : State :=
  let (world, status, slept) := runTool tool state.world arguments
  { state with world, status, slept := state.slept || slept }

/-- Leaves loops, or goes on with the next round of one. -/
def leave (state : State) (flow : Nat → Flow) (arguments : List Text) : State :=
  match arguments with
  | [] => { state with flow := flow 1, status := 0 }
  | text :: _ =>
    match count? text with
    | some (n + 1) => { state with flow := flow (n + 1), status := 0 }
    | _ => state.refuse

/-- Ends something with a status, that of the last command if none is given. -/
def endWithStatus (state : State) (arguments : List Text) (flow : Nat → Flow) : State :=
  match arguments with
  | [] => { state with flow := flow (state.status % 256) }
  | text :: _ =>
    match count? text with
    | some n => { state with flow := flow (n % 256), status := n % 256 }
    | none => state.refuse

def sendOwn (runner : Runner) (state : State) (arguments : List Text) : State :=
  match arguments with
  | ['-', 'l'] :: rest =>
    let names := rest.filterMap fun text =>
      ((Condition.number? text).bind fun n => Kernel.Signal.names.lookup (n.toNat % 128)).map
        (·.toList ++ ['\n'])
    let (world, status, _) := printed state.world (joined [] names) 0
    { state with world, status }
  | _ =>
    let (world, status) := sendSignals state.world arguments
    let state := { state with world, status }
    match signalRequest? arguments with
    | some (signal, pids) =>
      if signal.isHarmless && pids.contains (numeral state.world.pid) then
        receive runner state signal
      else notice runner state
    | none => state

/-- Runs a function or a program by its name; `isFree` tells whether functions count. -/
def runNamed (launch : Launch) (runner : Runner) (asked isFree : Bool) (state : State)
    (name : Text) (arguments : List Text) : State :=
  match if isFree then state.functions.lookup name else none with
  | some body =>
    let after := runner asked { state with arguments, depth := state.depth + 1, hidden := [] } body
    let restored := after.hidden.foldl (fun bindings (name, entry) =>
      (entry.map (name, ·)).toList ++ bindings.filter (·.1 ≠ name)) after.bindings
    { after with
      bindings := restored
      hidden := state.hidden
      arguments := state.arguments
      depth := state.depth
      flow := if after.flow = .returning then .onward else after.flow }
  | none => runProgram launch runner state name arguments

/-- Runs a script's file in place. -/
def runFile (runner : Runner) (asked : Bool) (state : State) (name : Text) : State :=
  let places := if name.contains '/' then [name]
    else (((state.setting? "PATH".toList).getD []).splitOn ':').map (· ++ '/' :: name)
  match places.findSome? fun place =>
      (state.world.files.read state.world.directory (Text.octets place)).toOption with
  | some content =>
    let after := runText runner asked { state with status := 0 } (Text.ofOctets content)
    { after with flow := if after.flow = .returning then .onward else after.flow }
  | none => state.refuse

def runFields (launch : Launch) (runner : Runner) (asked isFree : Bool) (state : State)
    (name : Text) (arguments : List Text) : State :=
  let done (status : Nat) : State := { state with status }
  if isFree && (state.functions.lookup name).isSome &&
      !specialNames.contains (String.ofList name) then
    runNamed launch runner asked isFree state name arguments
  else
    match String.ofList name with
    | ":" | "true" | "umask" | "times" | "hash" | "alias" | "unalias" | "jobs" | "ulimit" =>
      done 0
    | "false" | "getopts" => done 1
    | "fg" | "bg" => done 2
    | "set" => state.adjust arguments
    | "trap" => state.setTraps arguments
    | "echo" =>
      let (world, status, _) := printed state.world (Printed.echoed arguments) 0
      { state with world, status }
    | "printf" => state.runOwn .print arguments
    | "pwd" => state.runOwn .workingDirectory []
    | "test" => done (Condition.status ⟨state.world.files, state.world.directory⟩ arguments)
    | "[" =>
      if arguments.getLast? = some [']'] then
        done (Condition.status ⟨state.world.files, state.world.directory⟩ arguments.dropLast)
      else done 2
    | "kill" => sendOwn runner state arguments
    | "wait" => state.await arguments
    | "read" =>
      let names := (optionLetters arguments).2
      if names = [] || !names.all isName then done 2 else state.readLine arguments
    | "cd" | "chdir" => state.enter arguments
    | "export" => state.mark (fun entry => { entry with exported := true }) arguments
    | "readonly" => state.mark (fun entry => { entry with fixed := true }) arguments
    | "local" =>
      if state.depth = 0 then state.refuse
      else (state.hide (arguments.map (·.takeWhile (· ≠ '=')))).mark id arguments
    | "unset" => state.forget arguments
    | "shift" =>
      match count? (arguments.headD ['1']) with
      | some n =>
        if n ≤ state.arguments.length then
          { state with arguments := state.arguments.drop n, status := 0 }
        else state.refuse
      | none => state.refuse
    | "exit" => state.endWithStatus arguments fun n => .ended (.code n)
    | "return" => state.endWithStatus arguments fun _ => .returning
    | "break" => state.leave .leaving arguments
    | "continue" => state.leave .repeating arguments
    | "eval" => runText runner asked { state with status := 0 } (joined [' '] arguments)
    | "." =>
      match arguments with
      | [] => state.refuse
      | file :: _ => runFile runner asked state file
    | "exec" =>
      match arguments with
      | [] => done 0
      | name :: rest => state.replace launch name rest
    | "type" => state.describe arguments
    | "command" =>
      match arguments with
      | ['-', 'v'] :: names | ['-', 'V'] :: names => state.describe names
      | _ => done 0
    | _ => runNamed launch runner asked isFree state name arguments

/-! ### Commands -/

/-- The fields of a command without words in front that only ask to pass over functions, and whether
functions count. -/
def uncovered : List Text → Bool × List Text
  | name :: next :: rest =>
    if name = "command".toList && next.head? ≠ some '-' then
      (false, (uncovered (next :: rest)).2)
    else (true, name :: next :: rest)
  | fields => (true, fields)

def redirect? (capture : Capture) (state : State) : List Redirection → Option State
  | [] => some state
  | redirection :: rest =>
    let (state, target) := state.expandWhole capture redirection.target
    match state.world.redirect? redirection.stream redirection.direction target with
    | none => none
    | some world => redirect? capture { state with world } rest

def withStreamsOf (state other : State) : State :=
  { state with world := { state.world with streams := other.world.streams } }

/-- The state after a command that ran with streams of its own; an input that was not redirected is
read on. -/
def restore (after before inside : State) : State :=
  let restored := after.withStreamsOf before
  match after.world.streams.lookup 0 with
  | some stream =>
    if inside.world.streams.lookup 0 = before.world.streams.lookup 0 then
      { restored with world := restored.world.withStream 0 stream }
    else restored
  | none => restored

def runSimple (launch : Launch) (runner : Runner) (asked : Bool) (state : State)
    (assignments : List (Text × Word)) (words : List Word) (redirections : List Redirection) :
    State :=
  let capture := capture runner
  let (state, fields) := { state with captured := none }.expand capture words
  let (isFree, fields) := uncovered fields
  if !state.isOnward then state
  else
    let name := String.ofList (fields.headD [])
    let isSpecial := specialNames.contains name
    match state.redirect? capture redirections with
    | none => if isSpecial then state.refuse else { state with status := 2 }
    | some inside =>
      let assigned := assignments.foldl (fun state (name, word) =>
        let (state, value) := state.expandWhole capture word
        if state.isOnward then state.assign name value else state) inside
      if !assigned.isOnward then assigned
      else
        match fields with
        | [] => { assigned with status := assigned.captured.getD 0 }.withStreamsOf state
        | name :: arguments =>
          let lent := if isSpecial then assigned
            else assignments.foldl (fun state (name, _) =>
              state.put name { state.get name with exported := true }) assigned
          let after := runFields launch runner asked isFree lent name arguments
          let after := if isSpecial || assignments = [] then after
            else { after with
              bindings := assignments.foldl (fun bindings (name, _) =>
                ((inside.bindings.lookup name).map (name, ·)).toList ++
                  bindings.filter (·.1 ≠ name)) after.bindings }
          if name = "exec".toList then after else after.restore state inside

/-- A strict shell ends when a command fails whose status is not asked for. -/
def heed (state : State) (asked : Bool) : State :=
  if state.manner.strict && !asked && state.status ≠ 0 && state.isOnward then
    state.endWith (.code state.status)
  else state

/-- What becomes of the flow at the end of a loop's round: none if the loop goes on, else the flow
behind it. -/
def afterRound : Flow → Option Flow
  | .onward => none
  | .leaving 0 | .leaving 1 => some .onward
  | .leaving (n + 2) => some (.leaving (n + 1))
  | .repeating 0 | .repeating 1 => none
  | .repeating (n + 2) => some (.repeating (n + 1))
  | flow => some flow

def fitsAny (capture : Capture) (state : State) (text : Text) : List Word → State × Bool
  | [] => (state, false)
  | pattern :: rest =>
    let (state, glyphs) := state.expandGlyphs capture pattern
    if Pattern.fits glyphs text then (state, true) else fitsAny capture state text rest

def choose (capture : Capture) (text : Text) : State → Command → State × Option Command
  | state, .branch patterns body others =>
    match fitsAny capture state text patterns with
    | (state, true) => (state, some body)
    | (state, false) => choose capture text state others
  | state, _ => (state, none)

/-- Runs the rounds of a loop, as long as its condition says; `rounds` bounds their number, and the
status is that of the round before. -/
def runRounds (runner : Runner) (asked whileTrue : Bool) (condition body : Command)
    (status : Nat) : Nat → State → State
  | 0, state => { state with flow := .endless }
  | rounds + 1, state =>
    let tested := runner true state condition
    match afterRound tested.flow with
    | some flow => { tested with flow }
    | none =>
      let goesOn := tested.isOnward && decide (tested.status = 0) == whileTrue
      if tested.isOnward && !goesOn then { tested with status }
      else
        let after := if goesOn then runner asked tested body else tested
        match afterRound after.flow with
        | some flow => { after with flow }
        | none =>
          runRounds runner asked whileTrue condition body after.status rounds
            { after with flow := .onward }

def runEach (runner : Runner) (asked : Bool) (name : Text) (body : Command) :
    State → List Text → State
  | state, [] => state
  | state, value :: rest =>
    let after := runner asked (state.assign name value) body
    match afterRound after.flow with
    | none => runEach runner asked name body { after with flow := .onward } rest
    | some flow => { after with flow }

/-- Runs a command, unless the shell has ended; `steps` bounds the depth of commands and the rounds
of loops. -/
def run (launch : Launch) : Nat → Runner
  | 0, _, state, _ => { state with flow := .endless }
  | steps + 1, asked, state, command =>
    let runner : Runner := run launch steps
    if !state.isOnward then state
    else
      match command with
      | .nothing => state
      | .simple assignments words redirections =>
        (state.runSimple launch runner asked assignments words redirections).heed asked
      | .sequence first second => run launch steps asked (run launch steps asked state first) second
      | .both first second =>
        let after := run launch steps true state first
        if after.status = 0 then run launch steps asked after second else after
      | .either first second =>
        let after := run launch steps true state first
        if after.status = 0 then after else run launch steps asked after second
      | .negated command =>
        let after := run launch steps true state command
        if after.isOnward then { after with status := if after.status = 0 then 1 else 0 }
        else after
      | .piped first second => (state.runPiped runner asked first second).heed asked
      | .background command => state.runAside runner command
      | .subshell command =>
        (state.afterSubshell runner
          (state.runWithin runner asked state.world.forked command)).heed asked
      | .redirected command redirections =>
        match state.redirect? (capture runner) redirections with
        | none => { state with status := 2 }.heed asked
        | some inside => (run launch steps asked inside command).restore state inside
      | .choice condition whenTrue whenFalse =>
        let after := run launch steps true state condition
        if !after.isOnward then after
        else if after.status = 0 then run launch steps asked after whenTrue
        else run launch steps asked { after with status := 0 } whenFalse
      | .loop whileTrue condition body =>
        runRounds runner asked whileTrue condition body 0 steps state
      | .each name words body =>
        match words with
        | none => runEach runner asked name body { state with status := 0 } state.arguments
        | some words =>
          let (state, values) := state.expand (capture runner) words
          if state.isOnward then runEach runner asked name body { state with status := 0 } values
          else state
      | .selection subject branches =>
        let (state, text) := state.expandWhole (capture runner) subject
        match choose (capture runner) text state branches with
        | (state, some body) => run launch steps asked { state with status := 0 } body
        | (state, none) => { state with status := if state.isOnward then 0 else state.status }
      | .branch _ _ _ => state
      | .function name body =>
        { state with functions := (name, body) :: state.functions, status := 0 }

end HostEngine.Machine.Shell.State
