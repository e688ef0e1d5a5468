import PatchReview.Cli.Program

/-!
# Entry point

The configuration files, the rule documents and the environment are read from disk, and
the program runs on what was read.  No transport is built in, so the code host cannot be
reached.
-/

namespace PatchReview.Entry

open Config (Environment Sources)
open Files (Node)

/-- The variables in a block of bytes: names and texts with equals signs, and zero bytes
between them. -/
def environmentOf (bytes : ByteArray) : Environment :=
  match String.fromUTF8? bytes with
  | none => []
  | some text =>
    (Text.fields (· == '\x00') text.toList).filterMap fun entry =>
      (Text.splitOnce '=' entry).map fun (name, value) =>
        (String.ofList name, String.ofList value)

/-- Read the environment. -/
def readEnvironment : IO Environment := do
  try
    let bytes ← IO.FS.readBinFile "/proc/self/environ"
    pure (environmentOf bytes)
  catch _ => pure []

/-- Read a file into a tree, if it can be read. -/
def mountFile (path : String) (root : Node) : IO Node := do
  try
    let bytes ← IO.FS.readBinFile path
    pure (root.mount path (.file bytes))
  catch _ => pure root

/-- Read the configuration files of a directory into a tree. -/
def mountConfiguration (dir : String) (root : Node) : IO Node := do
  let here := (← IO.currentDir) / dir
  if ← here.isDir then
    let mut root := root.mount dir .empty
    for name in Config.fileNames do
      root ← mountFile (Files.join dir name) root
    pure root
  else if ← here.pathExists then pure (root.mount dir (.file .empty))
  else pure root

/-- Read the files of a directory into a tree; links and further directories do not
count. -/
def mountDirectory (dir : String) (root : Node) : IO Node := do
  let here := (← IO.currentDir) / dir
  if dir ≠ "" ∧ (← here.isDir) then
    let mut root := root.mount dir .empty
    for entry in ← here.readDir do
      if (← entry.path.symlinkMetadata).type == .file then
        root ← mountFile (Files.join dir entry.fileName) root
    pure root
  else pure root

/-- Where the settings come from on this machine. -/
def readSources : IO Sources := do
  let globalDir := (← IO.getEnv "HOME").map (Files.join · ".diffwarden")
  let root ← mountConfiguration ".diffwarden" .empty
  let root ← match globalDir with
    | some dir => mountConfiguration dir root
    | none => pure root
  pure {
    root, globalDir
    projectDir := some ".diffwarden"
    environment := ← readEnvironment }

end PatchReview.Entry

open PatchReview in
/-- Run the program on the words of the command line. -/
def main (words : List String) : IO UInt32 := do
  let sources ← Entry.readSources
  let root ← match Cli.rulesDir? sources words with
    | some dir => Entry.mountDirectory dir sources.root
    | none => pure sources.root
  let run := Cli.run { sources with root } words Http.Link.down
  for w in run.warnings do
    IO.eprintln w.message
  let ending := run.value.1
  IO.print ending.output
  if let some text := ending.error then
    IO.eprintln text
  pure ending.code.toUInt32
