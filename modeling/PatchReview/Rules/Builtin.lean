import PatchReview.Rules.Document.Reader

/-!
# Built-in rule documents

Three rule documents come with the program.
-/

namespace PatchReview.Document

/-- The text of the document against comments that ask for work. -/
def avoidTodoCommentsText : String :=
  r#"---
title: Avoid TODO Comments
severity: warning
category: maintainability
filePatterns: ["**/*"]
rules:
  - id: avoid-todo-comments
    pattern: "\\bTODO\\b"
    message: "Avoid TODO comments. Create a ticket and reference it explicitly or remove the comment."
    caseInsensitive: true
---
TODO markers in new code tend to outlive the change that introduced them.
Open an issue for the follow-up work and link it from the code instead.
"#

/-- The text of the document on derived arrays. -/
def reactPerformanceText : String :=
  r#"---
title: React Performance
severity: info
category: react
filePatterns:
  - "**/*.ts"
  - "**/*.tsx"
rules:
  - id: react-performance
    pattern: "const\\s+filteredVariables\\s*=\\s*variables\\.filter\\("
    negativePattern: "useMemo\\s*\\("
    message: "Wrap derived arrays in useMemo with proper dependencies to avoid unnecessary recalculations."
---
Filtering a collection during render recomputes it on every render. Components
that already memoize with `useMemo` anywhere in the file are left alone.
"#

/-- The text of the document on optional values. -/
def typescriptSafetyText : String :=
  r#"---
title: TypeScript Safety
severity: warning
category: typescript
filePatterns: ["**/*.ts", "**/*.tsx"]
rules:
  - id: typescript-safety
    pattern: "^(?:[^?]|\\?+[^.?])*label\\.toLowerCase\\(\\)(?:[^?]|\\?+[^.?])*\\?*$"
    message: "Guard optional values when lowercasing: use label?.toLowerCase() and a safe default for searchValue."
---
Calling string methods on values that may be undefined throws at runtime.
Use optional chaining or an explicit guard. Lines that already use optional
chaining (`?.`) anywhere are not flagged.
"#

/-- The built-in texts with the ids of their documents, by id. -/
def builtinTexts : List (String × String) := [
  ("avoid-todo-comments", avoidTodoCommentsText),
  ("react-performance", reactPerformanceText),
  ("typescript-safety", typescriptSafetyText)]

/-- The documents among the given texts. -/
def readEach : List (String × String) → Logged (List Document)
  | [] => pure []
  | (id, content) :: rest =>
    match ofText? id content with
    | .error _ => do
      Logged.warn .builtinDocumentSkipped
      readEach rest
    | .ok document => do
      let d ← document
      let others ← readEach rest
      pure (d :: others)

/-- The built-in rule documents. -/
def builtin : Logged (List Document) :=
  readEach builtinTexts

end PatchReview.Document
