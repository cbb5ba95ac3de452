/-
# Requests and responses

What is sent to the server, relative to its address, and what comes back.

Key definitions: `Method`, `Request`, `Response`, `Response.result`.
-/
import EditLock.Failure
import EditLock.Text.Case
import EditLock.Text.NameMap

namespace EditLock

/-- The verbs of requests. -/
inductive Method where
  | get
  | post
  | put
  | delete
deriving Repr, DecidableEq, Inhabited

namespace Method

/-- The word for a verb. -/
def name : Method → String
  | get => "GET"
  | post => "POST"
  | put => "PUT"
  | delete => "DELETE"

/-- Whether the server asks for a token with this verb. -/
def changes (m : Method) : Bool :=
  m != get

end Method

/-- One request. -/
structure Request where
  method : Method
  /-- The absolute path. -/
  path : String
  /-- The parameters, in their order. -/
  query : List (String × String) := []
  headers : List (String × String) := []
  body : Option String := none
  /-- How long the request may take, in milliseconds, if it has a limit of its own. -/
  limit : Option Nat := none
deriving Repr, DecidableEq, Inhabited

namespace Request

/-- The request with one more parameter. -/
def withQuery (r : Request) (name value : String) : Request :=
  { r with query := r.query ++ [(name, value)] }

/-- The request with one more header. -/
def withHeader (r : Request) (name value : String) : Request :=
  { r with headers := r.headers ++ [(name, value)] }

/-- The request with a body and its type. -/
def withBody (r : Request) (type body : String) : Request :=
  { r.withHeader "Content-Type" type with body := some body }

/-- How the request is named in failures. -/
def label (r : Request) : String :=
  r.method.name ++ " " ++ r.path

end Request

/-- What the server answered. -/
structure Response where
  status : Nat
  /-- The headers by their lower-case names. -/
  headers : NameMap := []
  data : String := ""
deriving Repr, DecidableEq, Inhabited

namespace Response

/-- Whether the status says that the request succeeded. -/
def isSuccess (r : Response) : Bool :=
  200 ≤ r.status && r.status < 300

/-- The value of a header, whose name may be in any case. -/
def header? (r : Response) (name : String) : Option String :=
  r.headers.get? (Text.asciiLower name)

/-- The failure that a response stands for. -/
def rejection (r : Response) : Failure :=
  .rejected r.status r.data

/-- A response that is no success is a failure. -/
def result (r : Response) : Except Failure Response :=
  if r.isSuccess then .ok r else .error r.rejection

end Response

end EditLock
