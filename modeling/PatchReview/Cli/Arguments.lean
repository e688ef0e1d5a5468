import PatchReview.Config.Sources
import PatchReview.Text.Split

/-!
# Command lines

A command line names a command, with switches before and after the name.  Each switch
is given once on either side at most; `--debug` can stand on both.  After two dashes
nothing is a switch any more.
-/

namespace PatchReview.Cli

/-- Why a command line is not run. -/
inductive UsageError where
  /-- It asks for help. -/
  | displayHelp
  /-- It asks for the version. -/
  | displayVersion
  /-- It is empty. -/
  | nothingGiven
  /-- It names no command. -/
  | missingCommand
  /-- It names a command that does not exist. -/
  | unknownCommand
  /-- There is a switch or a word that has no meaning there. -/
  | unknownArgument
  /-- A switch is given twice. -/
  | repeatedSwitch
  /-- A switch without a value has one. -/
  | needlessValue
  /-- A switch lacks its value, or the value is empty. -/
  | missingValue
  /-- The pull request is missing. -/
  | missingPullRequest
  deriving DecidableEq, Repr

/-- A switch. -/
inductive Switch where
  | help
  | version
  | debug
  | json
  | post
  | noBuiltin
  | rulesDir
  deriving DecidableEq, Repr

/-- A part of a command line: before the command, or after one. -/
inductive Level where
  | top
  | review
  | rules
  deriving DecidableEq, Repr

/-- The switch of a name after two dashes. -/
def Level.switch? (level : Level) (name : String) : Option Switch :=
  match level, name with
  | _, "help" => some .help
  | _, "debug" => some .debug
  | .top, "version" => some .version
  | .review, "post" => some .post
  | .review, "json" => some .json
  | .rules, "json" => some .json
  | .review, "no-builtin" => some .noBuiltin
  | .rules, "no-builtin" => some .noBuiltin
  | .review, "rules-dir" => some .rulesDir
  | .rules, "rules-dir" => some .rulesDir
  | _, _ => none

/-- The switch of a letter after one dash. -/
def Level.letter? (level : Level) (c : Char) : Option Switch :=
  match level, c with
  | _, 'h' => some .help
  | _, 'd' => some .debug
  | .top, 'V' => some .version
  | _, _ => none

/-- What a part of a command line has given so far. -/
structure Given where
  /-- The switches without a value. -/
  switches : List Switch := []
  /-- The directory of the rules. -/
  rulesDir : Option String := none
  /-- The pull request. -/
  pullRequest : Option String := none
  /-- The switch for the directory stands last, with its value if there is one yet. -/
  waiting : Option (Option String) := none
  deriving DecidableEq, Repr

namespace Given

/-- Take the directory of the rules. -/
def putRulesDir (g : Given) (dir : String) : Except UsageError Given :=
  if g.rulesDir.isSome then .error .repeatedSwitch
  else if dir = "" then .error .missingValue
  else .ok { g with rulesDir := some dir }

/-- Take the value that the last switch waits for. -/
def settle (g : Given) : Except UsageError Given :=
  match g.waiting with
  | none => .ok g
  | some none => .error .missingValue
  | some (some dir) => { g with waiting := none }.putRulesDir dir

/-- Take a switch without a value. -/
def putSwitch (g : Given) (s : Switch) : Except UsageError Given := do
  let g ← g.settle
  match s with
  | .help => .error .displayHelp
  | .version => .error .displayVersion
  | s =>
    if s ∈ g.switches then .error .repeatedSwitch
    else .ok { g with switches := s :: g.switches }

/-- Take the letters after one dash. -/
def putLetters (level : Level) (g : Given) : List Char → Except UsageError Given
  | [] => .ok g
  | c :: rest =>
    match level.letter? c with
    | none => .error .unknownArgument
    | some s => do
      let g ← g.putSwitch s
      putLetters level g rest

/-- Take what stands after two dashes: a name, and maybe an equals sign and a value. -/
def putLong (level : Level) (g : Given) (text : List Char) : Except UsageError Given :=
  let (name, value) := match Text.splitOnce '=' text with
    | some (name, value) => (name, some (String.ofList value))
    | none => (text, none)
  match level.switch? (String.ofList name), value with
  | none, _ => .error .unknownArgument
  | some .rulesDir, some dir => do
    let g ← g.settle
    g.putRulesDir dir
  | some .rulesDir, none => do
    let g ← g.settle
    pure { g with waiting := some none }
  | some _, some _ => .error .needlessValue
  | some s, none => g.putSwitch s

/-- Take a word that is no switch: the pull request, once. -/
def putWord (level : Level) (g : Given) (word : String) : Except UsageError Given :=
  if level = .review ∧ g.pullRequest = none then do
    let g ← g.settle
    pure { g with pullRequest := some word }
  else .error .unknownArgument

end Given

/-- The names that can stand for a command. -/
def commandNames : List String :=
  ["review", "rules", "help"]

/-- A word on the command line. -/
inductive Word where
  /-- Two dashes. -/
  | dashes
  /-- What stands after two dashes. -/
  | long (text : List Char)
  /-- What stands after one dash. -/
  | letters (text : List Char)
  /-- Any other word. -/
  | plain
  deriving DecidableEq, Repr

/-- What a word on the command line is. -/
def Word.ofText (s : String) : Word :=
  match s.toList with
  | ['-', '-'] => .dashes
  | '-' :: '-' :: text => .long text
  | ['-'] => .plain
  | '-' :: text => .letters text
  | _ => .plain

/-- Where a part of a command line ends: at its end, or at the name of a command. -/
abbrev Rest := Option (String × List String)

/-- Read a part of a command line; `trailing` says whether two dashes came before. -/
def readLevel (level : Level) (trailing : Bool) (g : Given) :
    List String → Except UsageError (Given × Rest)
  | [] => g.settle.map fun g => (g, none)
  | word :: rest =>
    if trailing then
      if level = .top then
        .error (if word ∈ commandNames then .unknownArgument else .unknownCommand)
      else do
        let g ← g.putWord level word
        readLevel level true g rest
    else if level = .top ∧ word ∈ commandNames then .ok (g, some (word, rest))
    else
      match Word.ofText word with
      | .dashes => readLevel level true g rest
      | .long text => do
        let g ← g.putLong level text
        readLevel level false g rest
      | .letters text => do
        let g ← g.putLetters level text
        readLevel level false g rest
      | .plain =>
        if level = .top then .error .unknownCommand
        else if g.waiting = some none then
          readLevel level false { g with waiting := some (some word) } rest
        else do
          let g ← g.putWord level word
          readLevel level false g rest

/-! ## Commands -/

/-- Where the rules come from, as far as the command line says. -/
structure RuleChoice where
  /-- The directory of the rules. -/
  rulesDir : Option String := none
  /-- Whether the built-in rules are left out. -/
  noBuiltin : Bool := false
  deriving DecidableEq, Repr

/-- A command. -/
inductive Command where
  /-- Review a pull request. -/
  | review (pullRequest : String) (post json : Bool) (rules : RuleChoice)
  /-- List the rules. -/
  | rules (json : Bool) (rules : RuleChoice)
  deriving DecidableEq, Repr

/-- What a command line asks for. -/
structure Arguments where
  /-- Whether more is written to the log. -/
  debug : Bool
  /-- The command. -/
  command : Command
  deriving DecidableEq, Repr

/-- The choice of rules that the switches make. -/
def Given.ruleChoice (g : Given) : RuleChoice where
  rulesDir := g.rulesDir
  noBuiltin := g.switches.contains .noBuiltin

/-- The command after its name. -/
def readReview (debug : Bool) (rest : List String) : Except UsageError Arguments := do
  let (g, _) ← readLevel .review false {} rest
  match g.pullRequest with
  | none => .error .missingPullRequest
  | some pullRequest =>
    pure {
      debug := debug || g.switches.contains .debug
      command := .review pullRequest (g.switches.contains .post) (g.switches.contains .json)
        g.ruleChoice }

/-- The command after its name. -/
def readRules (debug : Bool) (rest : List String) : Except UsageError Arguments := do
  let (g, _) ← readLevel .rules false {} rest
  pure {
    debug := debug || g.switches.contains .debug
    command := .rules (g.switches.contains .json) g.ruleChoice }

/-- Read what follows the word that asks for help: a command at most. -/
def readHelp : List String → UsageError
  | [] => .displayHelp
  | [name] => if name ∈ commandNames then .displayHelp else .unknownCommand
  | _ => .unknownCommand

/-- Read a command line. -/
def Arguments.ofList (words : List String) : Except UsageError Arguments := do
  let (g, rest) ← readLevel .top false {} words
  match rest with
  | some ("review", rest) => readReview (g.switches.contains .debug) rest
  | some ("rules", rest) => readRules (g.switches.contains .debug) rest
  | some (_, rest) => .error (readHelp rest)
  | none => .error (if g.switches = [] then .nothingGiven else .missingCommand)

/-- The settings that a command overrides. -/
def Command.overrides : Command → Config.Overrides
  | .review _ post _ choice => {
      rulesDir := choice.rulesDir
      builtinRules := if choice.noBuiltin then some false else none
      dryRun := if post then some false else none }
  | .rules _ choice => {
      rulesDir := choice.rulesDir
      builtinRules := if choice.noBuiltin then some false else none }

end PatchReview.Cli
