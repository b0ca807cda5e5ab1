import HostEngine.Machine.Shell.Basic
/-!
Reading shell scripts: characters become tokens, tokens become commands. A script is read line by
line, so what stands before a line that makes no sense is still understood.
-/
set_option autoImplicit false

namespace HostEngine.Machine.Shell

/-- A token of a script. The text of a redirection stands behind the line's end until it is brought
to its place. What cannot be read on is broken. -/
inductive Token where
  | word (word : Word)
  | redirect (stream : Nat) (direction : Direction)
  | place (stream : Nat)
  | body (word : Word)
  | newline
  | semicolon
  | doubleSemicolon
  | ampersand
  | conjunction
  | disjunction
  | bar
  | opening
  | closing
  | broken
  deriving DecidableEq, Repr

def isNameChar (c : Char) : Bool := c.isAlphanum || c = '_'

def isName (text : Text) : Bool :=
  text.all isNameChar && (match text with | c :: _ => !c.isDigit | [] => false)

/-! ### Parts of words -/

/-- The text up to the sign that closes what is open, and what follows that sign. Signs inside are
counted, and what is quoted is passed over; `steps` bounds the characters read. -/
def enclosed? (opening closing : Char) (depth : Nat) : Nat → Text → Option (Text × Text)
  | 0, _ | _, [] => none
  | steps + 1, c :: rest =>
    let keep (n : Nat) (text : Text) : Option (Text × Text) :=
      let read := (c :: rest).take n
      (enclosed? opening closing depth steps text).map fun (inner, after) => (read ++ inner, after)
    if c = '\\' then keep 2 (rest.drop 1)
    else if c = '\x27' && opening = '(' then
      let n := (rest.takeWhile (· ≠ '\x27')).length
      keep (n + 2) (rest.drop (n + 1))
    else if c = opening then
      (enclosed? opening closing (depth + 1) steps rest).map fun (inner, after) =>
        (c :: inner, after)
    else if c = closing then
      match depth with
      | 0 => some ([], rest)
      | depth + 1 =>
        (enclosed? opening closing depth steps rest).map fun (inner, after) => (c :: inner, after)
    else keep 1 rest

def parameter? : Text → Option (Parameter × Text)
  | '@' :: rest => some (.all true, rest)
  | '*' :: rest => some (.all false, rest)
  | '#' :: rest => some (.count, rest)
  | '?' :: rest => some (.status, rest)
  | '$' :: rest => some (.pid, rest)
  | '!' :: rest => some (.background, rest)
  | '-' :: rest => some (.flags, rest)
  | c :: rest =>
    if c.isDigit then some (.positional (c.toNat - '0'.toNat), rest)
    else if isNameChar c then
      some (.variable (c :: rest.takeWhile isNameChar), rest.dropWhile isNameChar)
    else none
  | [] => none

def bracedParameter? (text : Text) : Option (Parameter × Text) :=
  let digits := text.takeWhile Char.isDigit
  if digits = [] then parameter? text
  else some (.positional ((String.ofList digits).toNat?.getD 0), text.drop digits.length)

def operation? : Text → Option (Operation × Text)
  | [] => some (.value, [])
  | ':' :: '-' :: rest => some (.fallback true, rest)
  | ':' :: '=' :: rest => some (.assignment true, rest)
  | ':' :: '?' :: rest => some (.demand true, rest)
  | ':' :: '+' :: rest => some (.alternative true, rest)
  | '-' :: rest => some (.fallback false, rest)
  | '=' :: rest => some (.assignment false, rest)
  | '?' :: rest => some (.demand false, rest)
  | '+' :: rest => some (.alternative false, rest)
  | '%' :: '%' :: rest => some (.trimEnd true, rest)
  | '%' :: rest => some (.trimEnd false, rest)
  | '#' :: '#' :: rest => some (.trimStart true, rest)
  | '#' :: rest => some (.trimStart false, rest)
  | _ => none

def braced? (quoted : Bool) (text : Text) : Option Part :=
  let plain : Option Part := do
    let (parameter, rest) ← bracedParameter? text
    let (operation, operand) ← operation? rest
    some (.parameter parameter operation operand quoted)
  match text with
  | '#' :: c :: rest =>
    match bracedParameter? (c :: rest) with
    | some (parameter, []) => some (.parameter parameter .length [] quoted)
    | _ => plain
  | _ => plain

/-- The part that a dollar sign begins, given what follows it, and what is left; the inner option is
none for a lone dollar sign. -/
def dollar? (quoted : Bool) (text : Text) : Option (Option Part × Text) :=
  match text with
  | '(' :: inner => do
    let (script, after) ← enclosed? '(' ')' 0 (inner.length + 1) inner
    match script with
    | '(' :: expression =>
      match enclosed? '(' ')' 0 (expression.length + 1) expression with
      | some (expression, []) => some (some (.arithmetic expression quoted), after)
      | _ => some (some (.output script quoted), after)
    | _ => some (some (.output script quoted), after)
  | '\x7b' :: inner => do
    let (inside, after) ← enclosed? '\x7b' '\x7d' 0 (inner.length + 1) inner
    some (some (← braced? quoted inside), after)
  | _ =>
    match parameter? text with
    | some (parameter, rest) => some (some (.parameter parameter .value [] quoted), rest)
    | none => some (none, text)

def backquoted? : Text → Option (Text × Text)
  | [] => none
  | '\\' :: c :: rest =>
    (backquoted? rest).map fun (script, after) =>
      (if c = '$' || c = '\\' || c = '\x60' then c :: script else '\\' :: c :: script, after)
  | c :: rest =>
    if c = '\x60' then some ([], rest)
    else (backquoted? rest).map fun (script, after) => (c :: script, after)

/-- What double quotes mean in a text whose words are not divided: they end it, they are dropped, or
they stand for themselves. -/
inductive Quotes where
  | ending
  | dropped
  | kept
  deriving DecidableEq, Repr

/-- Reads a text as if in double quotes, up to its end; `steps` bounds the characters read. -/
def doubleQuoted? (quotes : Quotes) : Nat → Text → Option (Word × Text)
  | 0, _ => none
  | _, [] => if quotes = .ending then none else some ([], [])
  | steps + 1, c :: rest =>
    let go (part : Part) (text : Text) : Option (Word × Text) :=
      (doubleQuoted? quotes steps text).map fun (word, after) => (part :: word, after)
    if quotes = .ending && c = '\x22' then some ([], rest)
    else if quotes = .dropped && c = '\x22' then doubleQuoted? quotes steps rest
    else if c = '\\' then
      match rest with
      | [] => go (.literal ['\\'] true) []
      | d :: after =>
        if d = '\n' then doubleQuoted? quotes steps after
        else if d = '$' || d = '\\' || d = '\x60' || (quotes ≠ .kept && d = '\x22') then
          go (.literal [d] true) after
        else go (.literal ['\\', d] true) after
    else if c = '$' then
      match dollar? true rest with
      | none => none
      | some (some part, after) => go part after
      | some (none, after) => go (.literal ['$'] true) after
    else if c = '\x60' then
      match backquoted? rest with
      | none => none
      | some (script, after) => go (.output script true) after
    else go (.literal [c] true) rest

def endsWord (c : Char) : Bool :=
  c = ' ' || c = '\t' || c = '\n' || c = ';' || c = '&' || c = '|' || c = '<' || c = '>' ||
    c = '(' || c = ')'

def wordFrom? (whole : Bool) : Nat → Text → Option (Word × Text)
  | 0, _ => none
  | _, [] => some ([], [])
  | steps + 1, c :: rest =>
    let go (parts : Word) (text : Text) : Option (Word × Text) :=
      (wordFrom? whole steps text).map fun (word, after) => (parts ++ word, after)
    if !whole && endsWord c then some ([], c :: rest)
    else if c = '\x27' then
      match rest.dropWhile (· ≠ '\x27') with
      | [] => none
      | _ :: after => go [.literal (rest.takeWhile (· ≠ '\x27')) true] after
    else if c = '\x22' then
      match doubleQuoted? .ending (rest.length + 1) rest with
      | none => none
      | some (inner, after) => go (if inner = [] then [.literal [] true] else inner) after
    else if c = '\\' then
      match rest with
      | [] => some ([.literal ['\\'] true], [])
      | '\n' :: after => wordFrom? whole steps after
      | d :: after => go [.literal [d] true] after
    else if c = '$' then
      match dollar? false rest with
      | none => none
      | some (some part, after) => go [part] after
      | some (none, after) => go [.literal ['$'] false] after
    else if c = '\x60' then
      match backquoted? rest with
      | none => none
      | some (script, after) => go [.output script false] after
    else go [.literal [c] false] rest

def word? (text : Text) : Option (Word × Text) := wordFrom? false (text.length + 1) text

def Word.ofText? (quoted : Bool) (text : Text) : Option Word :=
  (if quoted then doubleQuoted? .dropped (text.length + 1) text
    else wordFrom? true (text.length + 1) text).map (·.1)

def Word.ofLines? (text : Text) : Option Word :=
  (doubleQuoted? .kept (text.length + 1) text).map (·.1)

/-- The text of a word without parameters, quotes removed, and whether anything is quoted. -/
def Word.bare : Word → Text × Bool
  | [] => ([], false)
  | .literal text quoted :: rest => (text ++ (bare rest).1, quoted || (bare rest).2)
  | _ :: rest => bare rest

def Word.plain? : Word → Option Text
  | [] => some []
  | .literal text false :: rest => (plain? rest).map (text ++ ·)
  | _ => none

/-! ### Tokens -/

structure Announced where
  stripped : Bool
  last : Text
  literal : Bool

/-- The lines up to a certain one, tabs in front of them dropped on demand, and what follows;
`steps` bounds the lines read. -/
def linesUntil (announced : Announced) : Nat → Text → Text × Text
  | 0, text => ([], text)
  | _, [] => ([], [])
  | steps + 1, text =>
    let whole := text.takeWhile (· ≠ '\n')
    let line := if announced.stripped then whole.dropWhile (· = '\t') else whole
    let rest := (text.drop whole.length).drop 1
    if line = announced.last then ([], rest)
    else
      let (lines, after) := linesUntil announced steps rest
      (line ++ '\n' :: lines, after)

def bodies : List Announced → Text → List Token × Text
  | [], text => ([], text)
  | announced :: others, text =>
    let (body, rest) := linesUntil announced (text.length + 1) text
    let (tokens, after) := bodies others rest
    let word := if announced.literal then some [.literal body true] else Word.ofLines? body
    ((match word with | some word => .body word | none => .broken) :: tokens, after)

def redirection? (named : Option Nat) : Text → Option (Token × Text)
  | '>' :: '>' :: rest => some (.redirect (named.getD 1) .append, rest)
  | '>' :: '&' :: rest => some (.redirect (named.getD 1) .duplicate, rest)
  | '>' :: '|' :: rest => some (.redirect (named.getD 1) .write, rest)
  | '>' :: rest => some (.redirect (named.getD 1) .write, rest)
  | '<' :: '&' :: rest => some (.redirect (named.getD 0) .duplicate, rest)
  | '<' :: '>' :: rest => some (.redirect (named.getD 0) .append, rest)
  | '<' :: '<' :: rest => some (.place (named.getD 0), rest)
  | '<' :: rest => some (.redirect (named.getD 0) .read, rest)
  | _ => none

def isBlank (c : Char) : Bool := c = ' ' || c = '\t'

def redirect? (text : Text) : Option (List Token × Option Announced × Text) := do
  let (token, rest) ← match text with
    | c :: rest =>
      if c.isDigit && (rest.head? = some '<' || rest.head? = some '>') then
        redirection? (some (c.toNat - '0'.toNat)) rest
      else redirection? none text
    | [] => none
  match token with
  | .place _ =>
    let stripped := rest.head? = some '-'
    let (word, rest) ← word? ((if stripped then rest.tail else rest).dropWhile isBlank)
    let (last, literal) := word.bare
    if word = [] then some ([.broken], none, rest)
    else some ([token], some ⟨stripped, last, literal⟩, rest)
  | _ => some ([token], none, rest)

def operator? : Text → Option (Token × Text)
  | ';' :: ';' :: rest => some (.doubleSemicolon, rest)
  | ';' :: rest => some (.semicolon, rest)
  | '&' :: '&' :: rest => some (.conjunction, rest)
  | '&' :: rest => some (.ampersand, rest)
  | '|' :: '|' :: rest => some (.disjunction, rest)
  | '|' :: rest => some (.bar, rest)
  | '(' :: rest => some (.opening, rest)
  | ')' :: rest => some (.closing, rest)
  | _ => none

def tokensFrom (announced : List Announced) : Nat → Text → List Token
  | 0, _ => [.broken]
  | _, [] => (bodies announced []).1
  | steps + 1, c :: rest =>
    if isBlank c then tokensFrom announced steps rest
    else if c = '\\' && rest.head? = some '\n' then tokensFrom announced steps rest.tail
    else if c = '#' then tokensFrom announced steps (rest.dropWhile (· ≠ '\n'))
    else if c = '\n' then
      let (texts, rest) := bodies announced rest
      .newline :: texts ++ tokensFrom [] steps rest
    else
      match operator? (c :: rest) with
      | some (token, rest) => token :: tokensFrom announced steps rest
      | none =>
        match redirect? (c :: rest) with
        | some (tokens, next, rest) =>
          tokens ++ tokensFrom (announced ++ next.toList) steps rest
        | none =>
          if c = '<' then [.broken]
          else
            match word? (c :: rest) with
            | some (word, rest) => .word word :: tokensFrom announced steps rest
            | none => [.broken]

def settle : List Word → List Token → List Token
  | _, [] => []
  | texts, .body _ :: rest => settle texts rest
  | text :: texts, .place stream :: rest =>
    .redirect stream .text :: .word text :: settle texts rest
  | texts, token :: rest => token :: settle texts rest

def tokens (text : Text) : List Token :=
  let found := tokensFrom [] (text.length + 1) text
  settle (found.filterMap fun | .body word => some word | _ => none) found

/-! ### Commands -/

def Token.isPlain (name : String) : Token → Bool
  | .word w => w.plain? == some name.toList
  | _ => false

def assignment? : Word → Text → Option (Text × Word)
  | .literal [c] false :: rest, name =>
    if c = '=' then (if name = [] then none else some (name.reverse, rest))
    else if isNameChar c && !(name = [] && c.isDigit) then assignment? rest (c :: name)
    else none
  | _, _ => none

def Token.isEnding (token : Token) : Bool :=
  ["then", "else", "elif", "fi", "do", "done", "esac", "\x7d"].any (token.isPlain ·)

def endsList : List Token → Bool
  | [] | .closing :: _ | .doubleSemicolon :: _ => true
  | token :: _ => token.isEnding

def redirections : List Token → List Redirection × List Token
  | .redirect stream direction :: .word w :: rest =>
    (⟨stream, direction, w⟩ :: (redirections rest).1, (redirections rest).2)
  | tokens => ([], tokens)

def simple : List Token → List (Text × Word) → List Word → List Redirection →
    Option (Command × List Token)
  | .word w :: rest, assignments, words, redirections =>
    match (if words = [] then assignment? w [] else none) with
    | some assignment => simple rest (assignment :: assignments) words redirections
    | none => simple rest assignments (w :: words) redirections
  | .redirect stream direction :: .word w :: rest, assignments, words, redirections =>
    simple rest assignments words (⟨stream, direction, w⟩ :: redirections)
  | .redirect _ _ :: _, _, _, _ => none
  | rest, assignments, words, redirections =>
    if assignments = [] && words = [] && redirections = [] then none
    else some (.simple assignments.reverse words.reverse redirections.reverse, rest)

def skipNewlines (tokens : List Token) : List Token := tokens.dropWhile (· = .newline)

/-- Tokens without line ends and one semicolon in front. -/
def skipSeparator (tokens : List Token) : List Token :=
  match tokens with
  | .semicolon :: rest => skipNewlines rest
  | _ => skipNewlines tokens

def wordsNext : List Token → List Word × List Token
  | .word w :: rest => (w :: (wordsNext rest).1, (wordsNext rest).2)
  | tokens => ([], tokens)

def patternsNext? : List Token → Option (List Word × List Token)
  | .word w :: .closing :: rest => some ([w], rest)
  | .word w :: .bar :: rest => (patternsNext? rest).map fun (words, rest) => (w :: words, rest)
  | _ => none

def expect? (name : String) : List Token → Option (List Token)
  | token :: rest => if token.isPlain name then some rest else none
  | [] => none

/-- What a reader looks for: a list of commands, a line, a chain of commands, what goes on with one,
commands with bars between them, a condition behind its first word, the branches of a selection, one
command, or one that redirections may follow. -/
inductive Goal where
  | list
  | line
  | chain
  | chainAfter (first : Command)
  | pipeline
  | pipelineAfter (first : Command)
  | condition
  | branches
  | command
  | compound

/-- Reads what is looked for, and returns it with the tokens that are left; `steps` bounds the depth
of reading. -/
def read : Nat → Goal → List Token → Option (Command × List Token)
  | 0, _, _ => none
  | steps + 1, .list, tokens =>
    let tokens := skipNewlines tokens
    if endsList tokens then some (.nothing, tokens)
    else do
      let (first, rest) ← read steps .chain tokens
      match rest with
      | .ampersand :: rest =>
        let (second, rest) ← read steps .list rest
        some (.sequence (.background first) second, rest)
      | .semicolon :: rest | .newline :: rest =>
        let (second, rest) ← read steps .list rest
        some (.sequence first second, rest)
      | rest => if endsList rest then some (first, rest) else none
  | steps + 1, .line, tokens => do
    let (first, rest) ← read steps .chain tokens
    let goOn (command : Command) (rest : List Token) : Option (Command × List Token) :=
      match rest with
      | [] => some (command, [])
      | .newline :: rest => some (command, rest)
      | rest => (read steps .line rest).map fun (second, rest) =>
          (.sequence command second, rest)
    match rest with
    | [] => some (first, [])
    | .newline :: rest => some (first, rest)
    | .semicolon :: rest => goOn first rest
    | .ampersand :: rest => goOn (.background first) rest
    | _ => none
  | steps + 1, .chain, tokens => do
    let (first, rest) ← read steps .pipeline tokens
    read steps (.chainAfter first) rest
  | steps + 1, .chainAfter first, tokens =>
    match tokens with
    | .conjunction :: rest => do
      let (second, rest) ← read steps .pipeline (skipNewlines rest)
      read steps (.chainAfter (.both first second)) rest
    | .disjunction :: rest => do
      let (second, rest) ← read steps .pipeline (skipNewlines rest)
      read steps (.chainAfter (.either first second)) rest
    | tokens => some (first, tokens)
  | steps + 1, .pipeline, tokens =>
    match expect? "!" tokens with
    | some rest => (read steps .pipeline rest).map fun (command, rest) => (.negated command, rest)
    | none => do
      let (first, rest) ← read steps .command tokens
      match rest with
      | .bar :: rest =>
        (read steps (.pipelineAfter first) (skipNewlines rest)).map id
      | rest => some (first, rest)
  | steps + 1, .pipelineAfter first, tokens => do
    let (second, rest) ← read steps .command tokens
    match rest with
    | .bar :: rest => read steps (.pipelineAfter (.piped first second)) (skipNewlines rest)
    | rest => some (.piped first second, rest)
  | steps + 1, .condition, tokens => do
    let (condition, rest) ← read steps .list tokens
    let rest ← expect? "then" rest
    let (whenTrue, rest) ← read steps .list rest
    match rest with
    | [] => none
    | token :: rest =>
      if token.isPlain "fi" then some (.choice condition whenTrue .nothing, rest)
      else if token.isPlain "elif" then
        (read steps .condition rest).map fun (whenFalse, rest) =>
          (.choice condition whenTrue whenFalse, rest)
      else if token.isPlain "else" then do
        let (whenFalse, rest) ← read steps .list rest
        some (.choice condition whenTrue whenFalse, ← expect? "fi" rest)
      else none
  | steps + 1, .branches, tokens =>
    let tokens := skipNewlines tokens
    match expect? "esac" tokens with
    | some rest => some (.nothing, rest)
    | none => do
      let (patterns, rest) ← patternsNext? (match tokens with
        | .opening :: rest => rest
        | tokens => tokens)
      let (body, rest) ← read steps .list rest
      match rest with
      | .doubleSemicolon :: rest =>
        let (others, rest) ← read steps .branches rest
        some (.branch patterns body others, rest)
      | rest => some (.branch patterns body .nothing, ← expect? "esac" rest)
  | steps + 1, .command, tokens =>
    match tokens with
    | .word w :: .opening :: .closing :: rest => do
      let name ← w.plain?
      if !isName name then none
      else
        let (body, rest) ← read steps .command (skipNewlines rest)
        some (.function name body, rest)
    | tokens => do
      let first ← tokens.head?
      if first.isEnding then none
      else if first = .opening || ["\x7b", "if", "while", "until", "for", "case"].any
          (first.isPlain ·) then do
        let (command, rest) ← read steps .compound tokens
        let (redirected, rest) := redirections rest
        some (if redirected = [] then command else .redirected command redirected, rest)
      else simple tokens [] [] []
  | steps + 1, .compound, tokens =>
    match tokens with
    | [] => none
    | .opening :: rest => do
      let (command, rest) ← read steps .list rest
      match rest with
      | .closing :: rest => if command = .nothing then none else some (.subshell command, rest)
      | _ => none
    | token :: rest =>
      if token.isPlain "\x7b" then do
        let (command, rest) ← read steps .list rest
        if command = .nothing then none else some (command, ← expect? "\x7d" rest)
      else if token.isPlain "if" then read steps .condition rest
      else if token.isPlain "while" || token.isPlain "until" then do
        let (condition, rest) ← read steps .list rest
        let (body, rest) ← read steps .list (← expect? "do" rest)
        some (.loop (token.isPlain "while") condition body, ← expect? "done" rest)
      else if token.isPlain "for" then
        match rest with
        | .word w :: rest => do
          let name ← w.plain?
          if !isName name then none
          else
            let (words, rest) := match expect? "in" (skipNewlines rest) with
              | some rest => (some (wordsNext rest).1, skipSeparator (wordsNext rest).2)
              | none => (none, skipSeparator rest)
            let (body, rest) ← read steps .list (← expect? "do" rest)
            some (.each name words body, ← expect? "done" rest)
        | _ => none
      else if token.isPlain "case" then
        match rest with
        | .word w :: rest => do
          let rest ← expect? "in" (skipNewlines rest)
          (read steps .branches rest).map fun (branches, rest) => (.selection w branches, rest)
        | _ => none
      else none

def Command.next? (tokens : List Token) : Option (Command × List Token) :=
  read (8 * tokens.length + 8) .line tokens

end HostEngine.Machine.Shell
