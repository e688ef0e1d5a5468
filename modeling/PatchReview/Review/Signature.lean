import PatchReview.Digest.Sha256
import PatchReview.Rules.Finding
import PatchReview.Text.Base
import PatchReview.Text.Blank
import PatchReview.Text.Split

/-!
# Signatures

A posted comment ends with a trailer `<!-- mcp:sig=… -->` that holds the signature
of its finding.  The comments of a pull request are thereby the record of what has
been posted.
-/

namespace PatchReview

namespace Finding

/-- The text that a finding's signature is the digest of. -/
def signatureText (f : Finding) : String :=
  f.path ++ "|" ++ toString f.position ++ "|" ++ f.ruleId.getD "" ++ "|" ++ f.message

/-- The number of digits in a signature. -/
def signatureLength : Nat :=
  16

/-- The signature of a finding: the first digits of the digest of its text. -/
def signature (f : Finding) : String :=
  String.ofList ((Digest.hexDigest f.signatureText).take signatureLength)

end Finding

namespace Signature

/-- The trailer that holds a signature. -/
def trailer (signature : String) : String :=
  "<!-- mcp:sig=" ++ signature ++ " -->"

/-- Whether a character is the given one in either letter case; the long s is an s. -/
def isSameLetter (expected c : Char) : Bool :=
  c.toLower == expected || (expected == 's' && c == 'ſ')

/-- Take a word in either letter case off the front of a text. -/
def dropWord : List Char → List Char → Option (List Char)
  | [], cs => some cs
  | _ :: _, [] => none
  | e :: word, c :: rest => if isSameLetter e c then dropWord word rest else none

/-- The signature of a trailer at the front of a text: at least eight digits. -/
def readTrailer (cs : List Char) : Option (List Char) := do
  let rest ← Text.dropLeading ['<', '!', '-', '-'] cs
  let rest ← dropWord ['m', 'c', 'p', ':', 's', 'i', 'g', '='] (Text.trimStart rest)
  let digits := rest.takeWhile Text.isHexDigit
  let rest := Text.trimStart (rest.dropWhile Text.isHexDigit)
  if 8 ≤ digits.length ∧ (Text.dropLeading ['-', '-', '>'] rest).isSome then some digits
  else none

/-- The signature of the first trailer in a text. -/
def findTrailer : List Char → Option (List Char)
  | [] => none
  | c :: rest => (readTrailer (c :: rest)).or (findTrailer rest)

/-- The signature in the text of a comment, in lower case. -/
def extract (body : String) : Option String :=
  (findTrailer body.toList).map fun digits => String.ofList (digits.map Char.toLower)

end Signature

namespace Finding

/-- What a comment says to its readers: the message and the rule. -/
def remark (f : Finding) : String :=
  match f.ruleId with
  | none => f.message
  | some id => f.message ++ " (rule: " ++ id ++ ")"

/-- The text of the comment for a finding. -/
def commentBody (f : Finding) : String :=
  f.remark ++ " " ++ Signature.trailer f.signature

end Finding

end PatchReview
