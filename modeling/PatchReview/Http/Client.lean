import PatchReview.Http.Decoding
import PatchReview.Http.Link
import PatchReview.Http.Target
import PatchReview.Text.Blank

/-!
# The code host over a network

A client asks the code host over a link, one request for each question.  The changed
files of a pull request come in pages of a hundred, thirty at most.
-/

namespace PatchReview.Http

/-- A client: where the code host is, and the token to show. -/
structure Client where
  /-- The address of the interface, without a slash at its end. -/
  apiUrl : String
  /-- The token. -/
  token : Option String
  deriving DecidableEq, Repr

namespace Client

/-- Take the slashes off the end of an address. -/
def dropSlashes (url : String) : String :=
  String.ofList (url.toList.reverse.dropWhile (· == '/')).reverse

/-- The client for an address; a blank token counts as none. -/
def new (apiUrl : String) (token : Option String) : Client where
  apiUrl := dropSlashes apiUrl
  token := token.filter fun t => Text.trim t.toList ≠ []

/-- The client for the public address, without a token. -/
def anonymous : Client :=
  new "https://api.github.com" none

/-- Whether the client has a token. -/
def isAuthenticated (c : Client) : Bool :=
  c.token.isSome

/-! ## Requests -/

/-- The address of a pull request. -/
def pullUrl (c : Client) (pr : PullRequestRef) : String :=
  c.apiUrl ++ "/repos/" ++ String.ofList (Text.percentEncode pr.owner.toList) ++ "/"
    ++ String.ofList (Text.percentEncode pr.repo.toList) ++ "/pulls/" ++ toString pr.number

/-- The address of a page of a list that belongs to a pull request. -/
def pageUrl (c : Client) (pr : PullRequestRef) (list : String) (page perPage : Nat) : String :=
  c.pullUrl pr ++ "/" ++ list ++ "?per_page=" ++ toString perPage ++ "&page=" ++ toString page

/-- Whether a text can be the value of a header. -/
def isHeaderText (s : String) : Bool :=
  s.toList.all fun c => (' ' ≤ c || c == '\t') && c != '\x7f'

/-- The headers of every request. -/
def headers (c : Client) : List (String × String) :=
  [("accept", "application/vnd.github+json"), ("user-agent", "diffwarden/0.1.0"),
    ("x-github-api-version", "2022-11-28")]
  ++ (c.token.map fun t => ("authorization", "Bearer " ++ t)).toList

/-- The request for an address, unless the address or the token cannot be sent. -/
def request? (c : Client) (method : Method) (url : String) (body : Option Json) :
    Option Request :=
  if !(c.token.elim true isHeaderText) then none
  else (target? url).map fun target => {
    method, target, body
    headers := c.headers ++ (body.map fun _ => ("content-type", "application/json")).toList }

/-- What is wrong with an answer that refuses a request. -/
def refusal (r : Response) : HostError :=
  let text := refusalText r.content
  if r.status = 401 then .unauthorized text
  else if r.status = 404 then .notFound text
  else .api r.status text

/-- Send a request and answer the content of a response that grants it. -/
def exchange (c : Client) (method : Method) (url : String) (body : Option Json) (l : Link) :
    Except HostError String × Link :=
  match c.request? method url body with
  | none => (.error .network, l)
  | some request =>
    match l.send request with
    | (none, l) => (.error .network, l)
    | (some response, l) =>
      if response.isSuccess then (.ok response.content, l) else (.error (refusal response), l)

/-- Ask for an address, and read the answer. -/
def get (c : Client) (decode : Json → Option α) (url : String) (l : Link) :
    Except HostError α × Link :=
  match c.exchange .get url none l with
  | (.error e, l) => (.error e, l)
  | (.ok content, l) =>
    match (Json.ofText? content).bind decode with
    | some a => (.ok a, l)
    | none => (.error .network, l)

/-! ## Questions -/

/-- Ask for a pull request. -/
def pullRequest (c : Client) (pr : PullRequestRef) : Link → Except HostError PullRequestHead × Link :=
  c.get PullRequestHead.ofJson? (c.pullUrl pr)

/-- Ask for a page of the changed files. -/
def listFiles (c : Client) (pr : PullRequestRef) (page perPage : Nat) :
    Link → Except HostError (List ChangedFile) × Link :=
  c.get (Json.list? ChangedFile.ofJson?) (c.pageUrl pr "files" page perPage)

/-- Ask for a page of the comments. -/
def listComments (c : Client) (pr : PullRequestRef) (page perPage : Nat) :
    Link → Except HostError (List ReviewComment) × Link :=
  c.get (Json.list? ReviewComment.ofJson?) (c.pageUrl pr "comments" page perPage)

/-- The number of changed files on a page. -/
def filesPerPage : Nat :=
  100

/-- The number of pages of changed files that are asked for at most. -/
def maxFilePages : Nat :=
  30

/-- Ask for the remaining pages of changed files, `count` of them from `page` on, up to a
short one. -/
def listPages (c : Client) (pr : PullRequestRef) :
    (count page : Nat) → Link → Except HostError (List ChangedFile) × Link
  | 0, _, l => (.ok [], l)
  | count + 1, page, l =>
    match c.listFiles pr page filesPerPage l with
    | (.error e, l) => (.error e, l)
    | (.ok files, l) =>
      if files.length < filesPerPage then (.ok files, l)
      else
        match listPages c pr count (page + 1) l with
        | (.error e, l) => (.error e, l)
        | (.ok more, l) => (.ok (files ++ more), l)

/-- Ask for a pull request and all its changed files. -/
def fetch (c : Client) (pr : PullRequestRef) (l : Link) : Except HostError PullRequest × Link :=
  match c.pullRequest pr l with
  | (.error e, l) => (.error e, l)
  | (.ok head, l) =>
    match c.listPages pr maxFilePages 1 l with
    | (.error e, l) => (.error e, l)
    | (.ok files, l) =>
      (.ok {
        number := head.number
        title := head.title
        body := head.body.getD ""
        state := head.state
        files }, l)

/-- The body of the request for a review. -/
def reviewBody (drafts : List Draft) : Json :=
  .object [("event", .string "COMMENT"), ("comments", .array (drafts.map Draft.toJson))]

/-- Ask for a review with some comments. -/
def createReview (c : Client) (pr : PullRequestRef) (drafts : List Draft) (l : Link) :
    Except HostError Unit × Link :=
  match c.exchange .post (c.pullUrl pr ++ "/reviews") (some (reviewBody drafts)) l with
  | (.error e, l) => (.error e, l)
  | (.ok _, l) => (.ok (), l)

/-- The code host that a client asks. -/
def host (c : Client) : Host Link where
  isAuthenticated _ := c.isAuthenticated
  fetch := c.fetch
  listComments := c.listComments
  createReview := c.createReview

end Client

end PatchReview.Http
