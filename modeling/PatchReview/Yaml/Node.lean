import PatchReview.Fields
import PatchReview.Yaml.Token.Reader

/-!
# Nodes

The tokens of a text make a tree of nodes: scalars, sequences and mappings.  An alias
is read as the node that it names, which comes before it.
-/

namespace PatchReview.Yaml

/-- A node, with its tag if it has one. -/
inductive Node where
  | scalar (tag : Option String) (plain : Bool) (text : List Char)
  | sequence (tag : Option String) (items : List Node)
  | mapping (tag : Option String) (entries : List (Node × Node))
  deriving Inhabited

namespace Node

/-- The scalar that stands for nothing at all. -/
def empty : Node :=
  .scalar none true []

/-- The state of reading nodes. -/
structure Progress where
  /-- The tokens to come. -/
  tokens : List Token
  /-- The named nodes, newest first; one that is still being read has no value. -/
  anchors : List (String × Option Node) := []
  /-- What the handles in tags stand for. -/
  handles : List (String × String) := []

namespace Progress

/-- The next token. -/
def next? (p : Progress) : Option Token :=
  p.tokens.head?

/-- Go over the next token. -/
def skip (p : Progress) : Progress :=
  { p with tokens := p.tokens.tail }

/-- Go over the next token if it is a given one. -/
def skipIf (p : Progress) (t : Token) : Option Progress :=
  if p.next? = some t then some p.skip else none

/-- Whether the next token is one of some. -/
def isAt (p : Progress) (ts : List Token) : Bool :=
  p.next?.any ts.contains

/-- Name the node that is about to be read. -/
def name (p : Progress) : Option String → Progress
  | some name => { p with anchors := (name, none) :: p.anchors }
  | none => p

/-- Give the node that `name` named its value; `earlier` nodes were named before it. -/
def define (p : Progress) (earlier : Nat) (name : Option String) (n : Node) : Progress :=
  match name with
  | some name => { p with anchors := p.anchors.set (p.anchors.length - 1 - earlier) (name, some n) }
  | none => p

end Progress

/-- What a tag stands for. -/
def resolveTag (handles : List (String × String)) (handle suffix : String) : Option String :=
  if handle = "" then some suffix
  else
    let known := handles ++ [("!", "!"), ("!!", "tag:yaml.org,2002:")]
    (Fields.get? known handle).map (· ++ suffix)

/-- The name and the tag before a node. -/
structure Properties where
  name : Option String := none
  tag : Option String := none

/-- Read a tag, if there is one. -/
def readTag (p : Progress) : Option (Option String × Progress) :=
  match p.next? with
  | some (.tag handle suffix) =>
    (resolveTag p.handles handle suffix).map fun tag => (some tag, p.skip)
  | _ => some (none, p)

/-- Read a name, if there is one. -/
def readName (p : Progress) : Option String × Progress :=
  match p.next? with
  | some (.anchor name) => (some name, p.skip)
  | _ => (none, p)

/-- Read the name and the tag before a node, in any order. -/
def readProperties (p : Progress) : Option (Properties × Progress) := do
  match readName p with
  | (some name, p) =>
    let (tag, p) ← readTag p
    pure (⟨some name, tag⟩, p)
  | (none, p) =>
    let (tag, p) ← readTag p
    let (name, p) := if tag.isSome then readName p else (none, p)
    pure (⟨name, tag⟩, p)

mutual

/-- Read a node.  `inBlock` says whether it may be a block, `sameColumn` whether it may be
items in the column of the key before it. -/
def read (inBlock sameColumn : Bool) : (fuel : Nat) → Progress → Option (Node × Progress)
  | 0, _ => none
  | fuel + 1, p =>
    match p.next? with
    | some (.alias name) =>
      match Fields.get? p.anchors name with
      | some (some n) => some (n, p.skip)
      | _ => none
    | _ => do
      let (properties, p) ← readProperties p
      let earlier := p.anchors.length
      let (n, p) ← readContent inBlock sameColumn properties fuel (p.name properties.name)
      pure (n, p.define earlier properties.name n)

/-- Read what follows the name and the tag of a node. -/
def readContent (inBlock sameColumn : Bool) (properties : Properties) :
    (fuel : Nat) → Progress → Option (Node × Progress)
  | 0, _ => none
  | fuel + 1, p =>
    match p.next? with
    | some (.scalar text plain) => some (.scalar properties.tag plain text, p.skip)
    | some .flowSequenceStart =>
      (readFlowItems true fuel p.skip).map fun (items, p) => (.sequence properties.tag items, p)
    | some .flowMappingStart =>
      (readFlowPairs true fuel p.skip).map fun (entries, p) => (.mapping properties.tag entries, p)
    | next =>
      if sameColumn && next == some .blockEntry then
        (readItems false fuel p).map fun (items, p) => (.sequence properties.tag items, p)
      else if inBlock && next == some .blockSequenceStart then
        (readItems true fuel p.skip).map fun (items, p) => (.sequence properties.tag items, p)
      else if inBlock && next == some .blockMappingStart then
        (readPairs fuel p.skip).map fun (entries, p) => (.mapping properties.tag entries, p)
      else if properties.name.isSome || properties.tag.isSome then
        some (.scalar properties.tag true [], p)
      else none

/-- Read a node, or none at all before some tokens. -/
def readUnless (ends : List Token) (inBlock sameColumn : Bool) :
    (fuel : Nat) → Progress → Option (Node × Progress)
  | 0, _ => none
  | fuel + 1, p =>
    if p.isAt ends then some (empty, p) else read inBlock sameColumn fuel p

/-- Read items with dashes before them.  A block of its own has an end mark. -/
def readItems (ownBlock : Bool) : (fuel : Nat) → Progress → Option (List Node × Progress)
  | 0, _ => none
  | fuel + 1, p =>
    if p.isAt [.blockEntry] then do
      let ends := if ownBlock then [.blockEntry, .blockEnd]
        else [.blockEntry, .key, .value, .blockEnd]
      let (n, p) ← readUnless ends true false fuel p.skip
      let (more, p) ← readItems ownBlock fuel p
      pure (n :: more, p)
    else if ownBlock then (p.skipIf .blockEnd).map fun p => ([], p)
    else some ([], p)

/-- Read keys and values of a block, up to its end mark. -/
def readPairs : (fuel : Nat) → Progress → Option (List (Node × Node) × Progress)
  | 0, _ => none
  | fuel + 1, p =>
    if p.isAt [.blockEnd] then some ([], p.skip)
    else if p.isAt [.key] then do
      let (k, p) ← readUnless [.key, .value, .blockEnd] true true fuel p.skip
      let (v, p) ←
        if p.isAt [.value] then readUnless [.key, .value, .blockEnd] true true fuel p.skip
        else some (empty, p)
      let (more, p) ← readPairs fuel p
      pure ((k, v) :: more, p)
    else none

/-- Read the value of a key in brackets, if it has one. -/
def readFlowValue (closing : Token) : (fuel : Nat) → Progress → Option (Node × Progress)
  | 0, _ => none
  | fuel + 1, p =>
    if p.isAt [.value] then readUnless [.flowEntry, closing] false false fuel p.skip
    else some (empty, p)

/-- Read items up to the closing bracket; before all but the `first` there is a comma.  A
key and its value are a mapping of their own. -/
def readFlowItems (first : Bool) : (fuel : Nat) → Progress → Option (List Node × Progress)
  | 0, _ => none
  | fuel + 1, p =>
    if p.isAt [.flowSequenceEnd] then some ([], p.skip)
    else do
      let p ← if first then some p else p.skipIf .flowEntry
      if p.isAt [.flowSequenceEnd] then pure ([], p.skip)
      else if p.isAt [.key] then
        let p := p.skip
        let (k, p) ←
          if p.isAt [.value, .flowEntry, .flowSequenceEnd] then some (empty, p.skip)
          else read false false fuel p
        let (v, p) ← readFlowValue .flowSequenceEnd fuel p
        let (more, p) ← readFlowItems false fuel p
        pure (.mapping none [(k, v)] :: more, p)
      else
        let (n, p) ← read false false fuel p
        let (more, p) ← readFlowItems false fuel p
        pure (n :: more, p)

/-- Read keys and values up to the closing brace; before all but the `first` there is a
comma. -/
def readFlowPairs (first : Bool) :
    (fuel : Nat) → Progress → Option (List (Node × Node) × Progress)
  | 0, _ => none
  | fuel + 1, p =>
    if p.isAt [.flowMappingEnd] then some ([], p.skip)
    else do
      let p ← if first then some p else p.skipIf .flowEntry
      if p.isAt [.flowMappingEnd] then pure ([], p.skip)
      else if p.isAt [.key] then
        let (k, p) ← readUnless [.value, .flowEntry, .flowMappingEnd] false false fuel p.skip
        let (v, p) ← readFlowValue .flowMappingEnd fuel p
        let (more, p) ← readFlowPairs false fuel p
        pure ((k, v) :: more, p)
      else
        let (k, p) ← read false false fuel p
        let (more, p) ← readFlowPairs false fuel p
        pure ((k, empty) :: more, p)

end

/-! ## Documents -/

/-- Read the directives before a document: at most one version, which is 1.1 or 1.2, and
each handle at most once. -/
def readDirectives (version : Bool) (handles : List (String × String)) :
    List Token → Option (List (String × String) × List Token)
  | .version major minor :: rest =>
    if version || major ≠ 1 || (minor ≠ 1 && minor ≠ 2) then none
    else readDirectives true handles rest
  | .handle name start :: rest =>
    if (Fields.get? handles name).isSome then none
    else readDirectives version (handles ++ [(name, start)]) rest
  | rest => some (handles, rest)

/-- Whether a token can stand at the end of a document only. -/
def endsDocument : Option Token → Bool
  | none => true
  | some .documentStart => true
  | some .documentEnd => true
  | some (.version _ _) => true
  | some (.handle _ _) => true
  | _ => false

/-- Read the node of a document; `explicit` says whether a mark starts the document, which
may then be empty. -/
def readDocument (explicit : Bool) (p : Progress) : Option (Node × Progress) :=
  if explicit && endsDocument p.next? then some (empty, p)
  else read true false (4 * p.tokens.length + 8) p

/-- The node of a text with one document; a text without any has none. -/
def ofTokens? (tokens : List Token) : Option (Option Node) :=
  if tokens = [] then some none
  else do
    let (handles, rest) ← readDirectives false [] tokens
    let explicit := rest.head? = some .documentStart
    if !explicit && rest.length < tokens.length then none
    else
      let p : Progress := { tokens := if explicit then rest.tail else rest, handles }
      let (n, p) ← readDocument explicit p
      if (p.tokens.dropWhile (· == .documentEnd)).isEmpty then pure (some n) else none

/-- The node of a text with one document; a text without any has none. -/
def ofText? (text : String) : Option (Option Node) :=
  (tokens? text.toList).bind ofTokens?

end Node

end PatchReview.Yaml
