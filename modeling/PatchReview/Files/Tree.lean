import PatchReview.Fields
import PatchReview.Text.Split

/-!
# File trees

A file tree holds what a program can read: files with their bytes, directories,
and symbolic links.  A path is followed from the root of the tree name by name,
through links as well.

Current gaps:

- The names of entries are texts.  A name whose bytes are not UTF-8 has no place in a tree; in
  particular the empty id that a rule document gets from such a name is not modelled.
-/

namespace PatchReview.Files

/-- A file with its bytes, a directory with the names of its entries, or a symbolic link.  Names
and link targets are UTF-8. -/
inductive Node where
  | file (bytes : ByteArray)
  | directory (entries : List (String × Node))
  | link (target : String)
  deriving Inhabited

/-- Why a path cannot be read. -/
inductive ReadError where
  /-- There is nothing at the path. -/
  | notFound
  /-- The file is not UTF-8 text. -/
  | invalidText
  /-- The path names a directory. -/
  | isADirectory
  /-- The path goes on below something that is no directory. -/
  | notADirectory
  /-- The path follows more than forty links. -/
  | tooManyLinks
  /-- A name on the path has more than 255 bytes. -/
  | nameTooLong
  /-- The path holds a zero character. -/
  | invalidPath
  deriving DecidableEq, Repr

/-- The names on a path; empty ones come from neighbouring slashes. -/
def names (path : String) : List String :=
  (Text.fields (· == '/') path.toList).map String.ofList

/-- The path of an entry of a directory. -/
def join (dir name : String) : String :=
  if dir = "" then name
  else if dir.toList.getLast? = some '/' then dir ++ name
  else dir ++ "/" ++ name

namespace Node

/-- The empty directory. -/
def empty : Node :=
  .directory []

/-- The entries of a directory; other nodes have none. -/
def entries : Node → List (String × Node)
  | .directory entries => entries
  | _ => []

/-- Put a node at the end of a list of names, with directories on the way to it. -/
def insert (root : Node) (path : List String) (node : Node) : Node :=
  match path with
  | [] => node
  | name :: rest =>
    let entries := root.entries
    let below := (Fields.get? entries name).getD .empty
    .directory (Fields.set entries name (below.insert rest node))

/-- The node at the end of a list of names; links are not followed. -/
def find? (root : Node) : List String → Option Node
  | [] => some root
  | name :: rest => (Fields.get? root.entries name).bind (find? · rest)

/-- Put a node at the end of a path, with directories on the way to it; `here` are the names
on the way so far. -/
def mountAt (root : Node) (here : List String) (node : Node) : List String → Node
  | [] => root.insert here node
  | name :: rest =>
    if name = "" ∨ name = "." then mountAt root here node rest
    else if name = ".." then mountAt root here.dropLast node rest
    else
      let there := here ++ [name]
      let ready :=
        if rest = [] ∨ (root.find? there).isSome then root else root.insert there .empty
      mountAt ready there node rest

/-- Put a node at the end of a path, with directories on the way to it. -/
def mount (root : Node) (path : String) (node : Node) : Node :=
  mountAt root [] node (names path)

/-- Follow names from a directory; `links` more links may be followed, and `parents`
are the directories above it, nearest first. -/
def walk (links : Nat) (root : Node) (parents : List Node) (here : Node)
    (path : List String) : Except ReadError Node :=
  match path with
  | [] => .ok here
  | name :: rest =>
    match here with
    | .directory entries =>
      if name = "" ∨ name = "." then walk links root parents here rest
      else if name = ".." then
        match parents with
        | [] => walk links root [] here rest
        | parent :: others => walk links root others parent rest
      else if name.utf8ByteSize > 255 then .error .nameTooLong
      else match Fields.get? entries name with
        | none => .error .notFound
        | some (.link target) =>
          match links with
          | 0 => .error .tooManyLinks
          | links + 1 =>
            if target = "" then .error .notFound
            else if target.toList.head? = some '/' then
              walk links root [] root (names target ++ rest)
            else walk links root parents here (names target ++ rest)
        | some node => walk links root (here :: parents) node rest
    | _ => .error .notADirectory
termination_by (links, path.length)

/-- The node that a path leads to. -/
def resolve (root : Node) (path : String) : Except ReadError Node :=
  if path = "" then .error .notFound
  else if path.toList.contains '\x00' then .error .invalidPath
  else walk 40 root [] root (names path)

/-- Whether a path leads to a directory. -/
def isDirectory (root : Node) (path : String) : Bool :=
  match root.resolve path with
  | .ok (.directory _) => true
  | _ => false

/-- Whether a path leads to a file. -/
def isFile (root : Node) (path : String) : Bool :=
  match root.resolve path with
  | .ok (.file _) => true
  | _ => false

/-- Read a file as text. -/
def readText (root : Node) (path : String) : Except ReadError String :=
  match root.resolve path with
  | .error e => .error e
  | .ok (.file bytes) =>
    match String.fromUTF8? bytes with
    | some text => .ok text
    | none => .error .invalidText
  | .ok _ => .error .isADirectory

end Node

/-! ## Parts of a file name -/

/-- The last name on a path. -/
def lastName (path : String) : String :=
  ((names path).getLast?).getD ""

/-- A name cut at its last dot, unless that is its first character. -/
def splitName (name : String) : String × Option String :=
  if name = ".." then (name, none)
  else
    let back := name.toList.reverse
    let extension := back.takeWhile (· ≠ '.')
    match back.drop extension.length with
    | [] => (name, none)
    | [_] => (name, none)
    | _ :: stem => (String.ofList stem.reverse, some (String.ofList extension.reverse))

/-- The last name on a path, without its extension. -/
def stem (path : String) : String :=
  (splitName (lastName path)).1

/-- What follows the last dot of the last name on a path. -/
def extension? (path : String) : Option String :=
  (splitName (lastName path)).2

end PatchReview.Files
