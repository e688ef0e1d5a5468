import PatchReview.Config.Sources
import PatchReview.Review.Host
import PatchReview.Rules.Finding
import PatchReview.Text.Quoted
import PatchReview.Yaml.Printer

/-!
# Texts of a log

A log shows findings, drafts and the overrides of the command line as YAML, on lines of their
own.  Overrides are shown field by field if the name of the rules directory is no text.
-/

namespace PatchReview

open Yaml (Entry Record)

/-! ## Findings and drafts -/

/-- A finding as a record; what it does not have is left out. -/
def Finding.toRecord (f : Finding) : Record :=
  [("path", .text f.path), ("position", .word (toString f.position)), ("message", .text f.message)]
    ++ (f.ruleId.map fun id => ("ruleId", Entry.text id)).toList
    ++ (f.severity.map fun s => ("severity", Entry.text s.label)).toList

/-- A draft as a record. -/
def Draft.toRecord (d : Draft) : Record :=
  [("path", .text d.path), ("position", .word (toString d.position)), ("body", .text d.body)]

/-- Records as a log shows them: below the line on which the message stands. -/
def logText (rs : List Record) : String :=
  "\n" ++ Yaml.printRecords rs

/-! ## Overrides -/

namespace Config.Overrides

/-- Overrides as a record; what is not overridden is left out. -/
def toRecord (o : Overrides) : Record :=
  (o.rulesDir.map fun dir => ("rules_dir", Entry.text dir)).toList
    ++ (o.builtinRules.map fun b => ("builtin_rules", Entry.word (toString b))).toList
    ++ (o.dryRun.map fun b => ("dry_run", Entry.word (toString b))).toList

/-- A value that may be missing, on lines of its own if it is there. -/
def fieldText (name : String) : Option String → String
  | some value => "    " ++ name ++ ": Some(\n        " ++ value ++ ",\n    ),\n"
  | none => "    " ++ name ++ ": None,\n"

/-- Overrides field by field, with the given bytes as the name of the directory. -/
def fieldsText (dir : List UInt8) (o : Overrides) : String :=
  "ConfigOverrides \x7b\n"
    ++ fieldText "rules_dir" (some (Text.quotedBytes dir))
    ++ fieldText "builtin_rules" (o.builtinRules.map toString)
    ++ fieldText "dry_run" (o.dryRun.map toString)
    ++ "\x7d"

/-- Overrides as a log shows them, below the line on which the message stands.  The name
of the rules directory is given in bytes. -/
def logText (dir : List UInt8) (o : Overrides) : String :=
  match String.fromUTF8? ⟨dir.toArray⟩ with
  | some name => "\n" ++ Yaml.printRecord { o with rulesDir := some name }.toRecord
  | none => "\n" ++ o.fieldsText dir

end Config.Overrides

end PatchReview
