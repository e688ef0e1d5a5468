import PatchReview.Pattern.Reader

/-!
# File patterns

A file pattern selects paths.  `**/` stands for any leading directories, `**` for
any text, `*` for any text without a slash, and every other character for itself.
A file pattern is turned into an anchored pattern and run as one.

Main statement:

- `FilePatternSet.isMatch_nil`: a set of no file patterns selects every path.
-/

namespace PatchReview

namespace FilePattern

/-- The file pattern that selects every path. -/
def everything : String :=
  "**/*"

/-- The file patterns that select every path without being run. -/
def selectsAll (p : String) : Bool :=
  p == "**/*" || p == "**"

/-- A character written so that a pattern takes it as itself. -/
def literal (c : Char) : List Char :=
  if Pattern.isMeta c then ['\\', c] else [c]

/-- The pattern of any leading directories. -/
def anyDirectories : List Char :=
  ['(', '?', ':', '.', '*', '/', ')', '?']

/-- The pattern of any text. -/
def anyText : List Char :=
  ['.', '*']

/-- The pattern of any text without a slash. -/
def anyName : List Char :=
  ['[', '^', '/', ']', '*']

/-- The pattern for the characters of a file pattern, without anchors. -/
def body : List Char → List Char
  | '*' :: '*' :: '/' :: rest => anyDirectories ++ body rest
  | '*' :: '*' :: rest => anyText ++ body rest
  | '*' :: rest => anyName ++ body rest
  | c :: rest => literal c ++ body rest
  | [] => []

/-- The pattern that a file pattern stands for. -/
def toPattern (p : String) : String :=
  String.ofList ('^' :: body p.toList ++ ['$'])

end FilePattern

/-- File patterns made ready for many paths. -/
structure FilePatternSet where
  /-- Whether every path is selected. -/
  selectsAll : Bool
  /-- The patterns to run on a path; none if every path is selected. -/
  patterns : List Pattern.Expr

namespace FilePatternSet

/-- Make file patterns ready.  No file patterns at all select every path. -/
def ofList (patterns : List String) : FilePatternSet :=
  if patterns.isEmpty || patterns.any FilePattern.selectsAll then ⟨true, []⟩
  else ⟨false, patterns.filterMap fun p =>
    (Pattern.Expr.ofText? (FilePattern.toPattern p).toList false).toOption⟩

/-- Whether one of the file patterns selects a path. -/
def isMatch (set : FilePatternSet) (path : String) : Bool :=
  set.selectsAll || set.patterns.any fun e => e.isMatch path.toList

theorem isMatch_nil (path : String) : (ofList []).isMatch path = true :=
  rfl

end FilePatternSet

/-- Whether one of some file patterns selects a path; unlike a set, no file patterns
select no path. -/
def FilePattern.anySelects (patterns : List String) (path : String) : Bool :=
  patterns.any fun p => selectsAll p || (FilePatternSet.ofList [p]).isMatch path

end PatchReview
