import PatchReview.Cli.Arguments
import PatchReview.Cli.Review
import PatchReview.Cli.Table
import PatchReview.Config.Load

/-!
# The program

A command line is read, the settings are loaded, and the command is run.  What is
written and how the program ends follows from the files, the environment and the
answers of the code host.
-/

namespace PatchReview.Cli

open Config (Settings Sources)
open Http (Link)

/-! ## Endings -/

/-- How the program ends. -/
structure Ending where
  /-- The exit code. -/
  code : Nat
  /-- What is written. -/
  output : String := ""
  /-- What went wrong. -/
  error : Option String := none
  deriving DecidableEq, Repr

/-- The version of the program. -/
def version : String :=
  "diffwarden 0.1.0"

/-- How to call the program. -/
def usage : String :=
  "Usage: diffwarden [-d] review [--post] [--json] [--rules-dir DIR] [--no-builtin] PULL_REQUEST\n"
    ++ "       diffwarden [-d] rules [--json] [--rules-dir DIR] [--no-builtin]"

/-- End after a success. -/
def Ending.success (output : String) : Ending where
  code := 0
  output := output ++ "\n"

/-- End after an error with causes. -/
def Ending.failure (messages : List String) : Ending where
  code := 1
  error := some ("Error: " ++ ": ".intercalate messages)

/-- End without running a command. -/
def Ending.ofUsage : UsageError → Ending
  | .displayHelp => .success usage
  | .displayVersion => .success version
  | _ => { code := 2, error := some usage }

/-! ## The list of rules -/

/-- The headings of the columns of the table of rule documents. -/
def ruleHeadings : List String :=
  ["Id", "Title", "Severity", "Category", "Files", "Rules", "Source"]

/-- Where a document came from. -/
def sourceLabel (d : Document) : String :=
  d.source.getD "Built-in"

/-- The cells of a document. -/
def documentCells (d : Document) : List Cell :=
  [d.id, d.title, d.severity.label, d.category, "\n".intercalate d.filePatterns,
    "\n".intercalate (d.rules.map (·.id)), sourceLabel d].map Cell.ofText

/-- The table of the documents of a store, with a row for each. -/
def rulesTable (s : Store) : String :=
  drawTable (ruleHeadings.map Cell.ofText) (s.documents.map documentCells)

/-- The text of the list of rules. -/
def rulesText (s : Store) (json : Bool) : String :=
  if json then (Json.array (s.documents.map Document.toJson)).pretty
  else if s.documents.isEmpty then "No rules found."
  else
    rulesTable s ++ "\n\n" ++ toString s.size ++ " rule document(s), " ++ toString s.clauseCount
      ++ " rule(s)"

/-! ## Commands -/

/-- Run a command. -/
def runCommand (root : Files.Node) (s : Settings) (command : Command) (l : Link) :
    Logged (Ending × Link) :=
  match command with
  | .rules json _ => do
    let store ← loadRules root s
    pure (.success (rulesText store json), l)
  | .review text _ json _ => do
    let (result, l) ← runReview root s text l
    match result with
    | .ok r => pure (.success (renderReport r json), l)
    | .error e => pure (.failure e.messages, l)

/-- The directory of the rules that the program will read, if it gets that far. -/
def rulesDir? (sources : Sources) (words : List String) : Option String :=
  match Arguments.ofList words with
  | .error _ => none
  | .ok arguments =>
    match ({ sources with overrides := arguments.command.overrides }.load).value with
    | .error _ => none
    | .ok s => some s.rulesDir

/-- Run the program. -/
def run (sources : Sources) (words : List String) (l : Link) : Logged (Ending × Link) :=
  match Arguments.ofList words with
  | .error e => pure (.ofUsage e, l)
  | .ok arguments => do
    let settings ← { sources with overrides := arguments.command.overrides }.load
    match settings with
    | .error e => pure (.failure [e.message], l)
    | .ok s => runCommand sources.root s arguments.command l

end PatchReview.Cli
