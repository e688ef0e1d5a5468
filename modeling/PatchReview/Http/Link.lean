import PatchReview.Json.Basic

/-!
# Links to a server

A request goes over a link to a server, and an answer comes back, or none.  A link
remembers the requests that were sent.  What comes back is a list that is known from the
start; when it is used up every request is refused.

Main statement:

- `sent_send`: a link that works sends exactly the request, and one that is down nothing.
-/

namespace PatchReview.Http

/-- What a request does. -/
inductive Method where
  | get
  | post
  deriving DecidableEq, Repr

/-- The name of a method. -/
def Method.name : Method → String
  | .get => "GET"
  | .post => "POST"

/-- A request. -/
structure Request where
  /-- What it does. -/
  method : Method
  /-- Its path and query. -/
  target : String
  /-- Its headers: names in lower case, and values. -/
  headers : List (String × String)
  /-- Its body, if it has one. -/
  body : Option Json := none
  deriving Repr

/-- An answer. -/
structure Response where
  /-- The status. -/
  status : Nat
  /-- The body. -/
  body : String
  deriving DecidableEq, Repr

namespace Response

/-- The answer of a server that has nothing to say any more. -/
def exhausted : Response :=
  ⟨599, "no response scripted"⟩

/-- Whether an answer says that the request was granted. -/
def isSuccess (r : Response) : Bool :=
  200 ≤ r.status && r.status ≤ 299

/-- The body that arrives: two statuses come without one. -/
def content (r : Response) : String :=
  if r.status = 204 ∨ r.status = 304 then "" else r.body

end Response

/-- A link to a server. -/
structure Link where
  /-- Whether the server can be reached. -/
  reachable : Bool := true
  /-- What comes back next, and so on; none where the connection breaks. -/
  replies : List (Option Response) := []
  /-- The requests that were sent, in order. -/
  sent : List Request := []
  deriving Repr

namespace Link

/-- The link to a server that cannot be reached. -/
def down : Link where
  reachable := false

/-- Send a request. -/
def send (r : Request) (l : Link) : Option Response × Link :=
  if !l.reachable then (none, l)
  else
    let l' := { l with sent := l.sent ++ [r] }
    match l.replies with
    | [] => (some .exhausted, l')
    | reply :: rest => (reply, { l' with replies := rest })

theorem sent_send (r : Request) (l : Link) :
    (l.send r).2.sent = if l.reachable then l.sent ++ [r] else l.sent := by
  unfold send
  cases l.reachable with
  | false => rfl
  | true =>
    simp only [Bool.not_true, Bool.false_eq_true, if_false, if_true]
    split <;> rfl

theorem reachable_send (r : Request) (l : Link) : (l.send r).2.reachable = l.reachable := by
  unfold send
  cases h : l.reachable with
  | false => simp [h]
  | true =>
    simp only [Bool.not_true, Bool.false_eq_true, if_false]
    split <;> rfl

end Link

end PatchReview.Http
