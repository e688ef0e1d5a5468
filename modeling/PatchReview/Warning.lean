/-!
# Warnings

Some faults do not stop the work: an unreadable rule document is left out, a rule
whose pattern cannot be read is passed over.  Each leaves a warning.  `Logged α`
is a value together with the warnings given on the way to it.

Main statements:

- `Logged.value_bind` and `Logged.warnings_bind`: what a later step adds comes
  after what was there, and warnings never change a value.
-/

namespace PatchReview

/-- What may be wrong without stopping the work. -/
inductive Warning where
  /-- The rules directory does not exist or is not a directory. -/
  | rulesDirectoryMissing
  /-- A rule document could not be read. -/
  | documentSkipped
  /-- A document names a severity that does not exist. -/
  | documentSeverityIgnored
  /-- An entry of a document's rule list is not an object. -/
  | entryNotAnObject
  /-- A rule has no pattern. -/
  | patternMissing
  /-- A rule names a severity that does not exist. -/
  | ruleSeverityIgnored
  /-- A document has an earlier rule of the same id. -/
  | duplicateRuleId
  /-- A built-in document could not be read. -/
  | builtinDocumentSkipped
  /-- A rule's pattern cannot be read. -/
  | invalidPattern
  /-- A finding points at no added line of its patch. -/
  | findingOutsidePatch
  /-- The place of a configuration directory is taken by something else. -/
  | notAConfigurationDirectory
  deriving DecidableEq, Repr

/-- The text of a warning. -/
def Warning.message : Warning → String
  | .rulesDirectoryMissing => "rules directory not found, no rules loaded"
  | .documentSkipped => "skipping rule document"
  | .documentSeverityIgnored => "ignoring document severity"
  | .entryNotAnObject => "skipping rule entry that is not a key-value object"
  | .patternMissing => "skipping rule without a pattern"
  | .ruleSeverityIgnored => "using document severity"
  | .duplicateRuleId => "skipping duplicate rule id"
  | .builtinDocumentSkipped => "skipping builtin rule document"
  | .invalidPattern => "skipping rule with invalid pattern"
  | .findingOutsidePatch => "dropping finding outside the patch"
  | .notAConfigurationDirectory => "configuration path exists but is not a directory"

/-- A value with the warnings given on the way to it, first to last. -/
structure Logged (α : Type) where
  /-- The value. -/
  value : α
  /-- The warnings, in the order in which they were given. -/
  warnings : List Warning := []
  deriving Repr

namespace Logged

instance : Monad Logged where
  pure a := { value := a }
  bind x f := ⟨(f x.value).value, x.warnings ++ (f x.value).warnings⟩

/-- Give a warning. -/
def warn (w : Warning) : Logged Unit :=
  ⟨(), [w]⟩

/-- Give a warning and go on with a value. -/
def warning (w : Warning) (a : α) : Logged α :=
  ⟨a, [w]⟩

@[simp]
theorem value_pure (a : α) : (pure a : Logged α).value = a :=
  rfl

@[simp]
theorem warnings_pure (a : α) : (pure a : Logged α).warnings = [] :=
  rfl

@[simp]
theorem value_bind (x : Logged α) (f : α → Logged β) : (x >>= f).value = (f x.value).value :=
  rfl

@[simp]
theorem warnings_bind (x : Logged α) (f : α → Logged β) :
    (x >>= f).warnings = x.warnings ++ (f x.value).warnings :=
  rfl

theorem pure_bind (a : α) (f : α → Logged β) : (pure a : Logged α) >>= f = f a :=
  rfl

@[simp]
theorem value_map (x : Logged α) (f : α → β) : (f <$> x).value = f x.value :=
  rfl

@[simp]
theorem warnings_map (x : Logged α) (f : α → β) : (f <$> x).warnings = x.warnings := by
  change x.warnings ++ [] = _
  simp

/-- Work through a list, keeping the values in order and collecting the warnings. -/
def forAll (f : α → Logged β) : List α → Logged (List β)
  | [] => pure []
  | a :: rest => do
    let b ← f a
    let bs ← forAll f rest
    pure (b :: bs)

@[simp]
theorem value_forAll (f : α → Logged β) (l : List α) :
    (forAll f l).value = l.map fun a => (f a).value := by
  induction l with
  | nil => rfl
  | cons a rest ih => simp [forAll, ih]

end Logged

end PatchReview
