import PatchReview.Json.Basic
import PatchReview.Review.Posting
import PatchReview.Text.Blank
import PatchReview.Text.Quoted

/-!
# Settings

The settings of a review: where the rules are, whether comments are posted, how the
code host is reached, and how comments are listed and posted.

Main statement:

- `Settings.check_eq_ok_iff`: which settings can be used.
-/

namespace PatchReview.Config

/-- How the code host is reached. -/
structure HostSettings where
  /-- The address of its interface. -/
  apiUrl : String := "https://api.github.com"
  /-- The token; it is needed for posting only. -/
  token : Option String := none
  /-- The owner of the repository, for pull requests given as a number. -/
  defaultOwner : Option String := none
  /-- The name of the repository, for pull requests given as a number. -/
  defaultRepo : Option String := none
  deriving DecidableEq, Repr

/-- The settings of a review. -/
structure Settings where
  /-- The directory of the rule documents. -/
  rulesDir : String := "rules"
  /-- Whether the built-in rule documents count as well. -/
  builtinRules : Bool := true
  /-- Whether nothing is to be posted. -/
  dryRun : Bool := true
  /-- How the code host is reached. -/
  host : HostSettings := {}
  /-- How comments are listed and posted. -/
  posting : PostingOptions := {}
  deriving DecidableEq, Repr

/-- What is wrong with a value of a configuration. -/
inductive Fault where
  /-- The value is of another kind than the setting. -/
  | wrongType
  /-- The number is out of the setting's range. -/
  | outOfRange
  /-- The text cannot be read at all. -/
  | unreadable
  deriving DecidableEq, Repr

/-- Why there are no settings. -/
inductive ConfigError where
  /-- A source cannot be read, or the value at a key does not fit. -/
  | parse (fault : Fault) (key : List String)
  /-- A setting cannot be used. -/
  | invalid (key reason : String)
  deriving DecidableEq, Repr

/-- What a configuration error says, without what the fault is. -/
def ConfigError.message : ConfigError → String
  | .parse _ _ => "Failed to parse configuration"
  | .invalid key reason => "Invalid configuration value for key '" ++ key ++ "': " ++ reason

/-- The largest page that the code host lists. -/
def maxPerPage : Nat :=
  100

namespace Settings

/-- Check that settings can be used: batches and pages are not empty, pages are not too
large, and there is an address. -/
def check (s : Settings) : Except ConfigError Unit :=
  if s.posting.batchSize = 0 then
    .error (.invalid "posting.batch_size" "must be at least 1")
  else if s.posting.perPage = 0 ∨ maxPerPage < s.posting.perPage then
    .error (.invalid "posting.per_page" ("must be between 1 and " ++ toString maxPerPage))
  else if s.posting.maxCommentPages = 0 then
    .error (.invalid "posting.max_comment_pages" "must be at least 1")
  else if Text.trim s.host.apiUrl.toList = [] then
    .error (.invalid "github.api_url" "must not be empty")
  else .ok ()

theorem check_eq_ok_iff (s : Settings) :
    s.check = .ok () ↔ 0 < s.posting.batchSize
      ∧ (0 < s.posting.perPage ∧ s.posting.perPage ≤ maxPerPage)
      ∧ 0 < s.posting.maxCommentPages ∧ Text.trim s.host.apiUrl.toList ≠ [] := by
  unfold check
  split
  · simp; omega
  split
  · simp; omega
  split
  · simp; omega
  split
  · next h => simp [h]
  · next h => simp only [true_iff]; exact ⟨by omega, by omega, by omega, h⟩

end Settings

/-! ## Showing settings -/

/-- Settings for the host as JSON; what is not set is left out. -/
def HostSettings.toJson (h : HostSettings) : Json :=
  .object (
    [("api_url", .string h.apiUrl)]
    ++ (h.token.map fun t => ("token", Json.string t)).toList
    ++ (h.defaultOwner.map fun o => ("default_owner", Json.string o)).toList
    ++ (h.defaultRepo.map fun r => ("default_repo", Json.string r)).toList)

/-- Settings as JSON. -/
def Settings.toJson (s : Settings) : Json :=
  .object [
    ("rules_dir", .string s.rulesDir),
    ("builtin_rules", .bool s.builtinRules),
    ("dry_run", .bool s.dryRun),
    ("github", s.host.toJson),
    ("posting", .object [
      ("batch_size", .nat s.posting.batchSize),
      ("per_page", .nat s.posting.perPage),
      ("max_comment_pages", .nat s.posting.maxCommentPages)])]

/-- A text that may be missing. -/
def optionText : Option String → String
  | some s => "Some(" ++ Text.quoted s ++ ")"
  | none => "None"

/-- Settings for the host on one line; the token is not shown. -/
def HostSettings.display (h : HostSettings) : String :=
  "GitHubConfig \x7b api_url: " ++ Text.quoted h.apiUrl
    ++ ", token: " ++ optionText (h.token.map fun _ => "<redacted>")
    ++ ", default_owner: " ++ optionText h.defaultOwner
    ++ ", default_repo: " ++ optionText h.defaultRepo ++ " \x7d"

end PatchReview.Config
