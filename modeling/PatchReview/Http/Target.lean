import PatchReview.Text.Base
import PatchReview.Text.Split

/-!
# Request targets

A request names what it is about by the path and the query of an address.  On the way
there, the segments `.` and `..` of the path are followed as in a directory, and
characters that cannot stand in an address are written byte by byte.
-/

namespace PatchReview.Http

/-- What follows the scheme and the two slashes of an address. -/
def afterScheme (url : List Char) : Option (List Char) :=
  (Text.dropLeading "http://".toList url).or (Text.dropLeading "https://".toList url)

/-- Whether a character ends the name of the server. -/
def endsServer (c : Char) : Bool :=
  c == '/' || c == '?' || c == '#'

/-- Whether a segment stands for the directory itself. -/
def isHere (segment : List Char) : Bool :=
  let s := segment.map Char.toLower
  s == ['.'] || s == ['%', '2', 'e']

/-- Whether a segment stands for the directory above. -/
def isAbove (segment : List Char) : Bool :=
  let s := segment.map Char.toLower
  s == ['.', '.'] || s == ['.', '%', '2', 'e'] || s == ['%', '2', 'e', '.']
    || s == ['%', '2', 'e', '%', '2', 'e']

/-- Follow the segments of a path; `done` are those so far, last one first.  A path that
ends in `.` or `..` ends in a slash. -/
def followSegments (done : List (List Char)) : List (List Char) → List (List Char)
  | [] => done.reverse
  | segment :: rest =>
    if isAbove segment then
      followSegments (if rest = [] then [] :: done.drop 1 else done.drop 1) rest
    else if isHere segment then followSegments (if rest = [] then [] :: done else done) rest
    else followSegments (segment :: done) rest

/-- Characters that are written byte by byte in a path. -/
def isHiddenInPath (c : Char) : Bool :=
  c ≤ ' ' || '~' < c || ['"', '#', '<', '>', '?', '^', '\x60', '\x7b', '\x7d'].contains c

/-- Characters that are written byte by byte in a query. -/
def isHiddenInQuery (c : Char) : Bool :=
  c ≤ ' ' || '~' < c || ['"', '#', '<', '>', '\''].contains c

/-- Write the characters of a class byte by byte. -/
def hide (test : Char → Bool) (s : List Char) : List Char :=
  s.flatMap fun c => if test c then Text.percentChar c else [c]

/-- The path of a target. -/
def pathOf (s : List Char) : List Char :=
  let segments := (Text.fields (· == '/') s).drop 1
  ((followSegments [] segments).flatMap fun segment => '/' :: hide isHiddenInPath segment)

/-- The target of an address; what follows a hash sign does not count.  There is none if
the address has no scheme that we know, or no server. -/
def target? (url : String) : Option String := do
  let rest ← afterScheme url.toList
  let server := rest.takeWhile (!endsServer ·)
  if server = [] then none
  else
    let rest := (rest.drop server.length).takeWhile (· ≠ '#')
    let path := rest.takeWhile (· ≠ '?')
    let query := rest.drop path.length
    let path := if path = [] then ['/'] else pathOf path
    pure (String.ofList (path ++ hide isHiddenInQuery query))

end PatchReview.Http
