import PatchReview.Config.Settings
import PatchReview.Http.Client
import PatchReview.Json.Printer
import PatchReview.Review.Run

/-!
# Reviewing by settings

The settings say which rules there are, how the code host is reached, and whether
comments are posted.
-/

namespace PatchReview.Cli

open Config (Settings)
open Http (Client Link)

/-- Why there is no report. -/
inductive RunError where
  /-- The text names no pull request. -/
  | reference (text : String)
  /-- The review failed. -/
  | review (e : ReviewError)
  deriving DecidableEq, Repr

/-- The texts of an error, from what failed to its causes. -/
def RunError.messages : RunError → List String
  | .reference text => [PullRequestRef.invalidMessage text]
  | .review e => e.message :: (e.cause?.map HostError.message).toList

/-- The rules that the settings ask for. -/
def loadRules (root : Files.Node) (s : Settings) : Logged Store :=
  if s.builtinRules then Store.loadWithBuiltin root s.rulesDir else Store.load root s.rulesDir

/-- The client that the settings ask for. -/
def clientOf (s : Settings) : Client :=
  .new s.host.apiUrl s.host.token

/-- Review the pull request that a text names. -/
def runReview (root : Files.Node) (s : Settings) (text : String) (l : Link) :
    Logged (Except RunError Report × Link) :=
  match PullRequestRef.ofText? text s.host.defaultOwner s.host.defaultRepo with
  | none => pure (.error (.reference text), l)
  | some pr => do
    let store ← loadRules root s
    let (result, l) ← Review.run (clientOf s).host s.posting.raised store pr s.dryRun l
    pure (result.mapError .review, l)

/-- A report as text or as JSON. -/
def renderReport (r : Report) (json : Bool) : String :=
  if json then r.toJson.pretty else r.text

end PatchReview.Cli
