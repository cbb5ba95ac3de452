/-
# The wire

What a server gets to see of a request, and what it sends back.

Key definitions: `WireRequest`, `WireReply`, `Server`, `isHeaderName`, `isHeaderValue`.
-/
import EditLock.Remote.Message
import EditLock.Text.Utf8

namespace EditLock

/-- A request as a server sees it. -/
structure WireRequest where
  /-- Whether it comes over an encrypted connection. -/
  secure : Bool
  /-- The server that is meant, with its port unless the scheme implies it. -/
  host : String
  method : Method
  /-- Path and query. -/
  target : String
  /-- Lower-case names and values, in the order in which they were added. -/
  headers : List (String × String)
  body : String
deriving Repr, DecidableEq, Inhabited

/-- What a server does about a request. -/
inductive WireReply where
  /-- It answers; if not `complete`, the connection breaks before the body's end. -/
  | answer (status : Nat) (headers : List (String × String)) (body : List UInt8) (complete : Bool)
  /-- No answer comes in time. -/
  | silence
deriving Repr, Inhabited

/-- A server, on a state of its own. -/
structure Server (ρ : Type) where
  respond : WireRequest → ρ → WireReply × ρ
  /-- How many milliseconds have passed by a state. -/
  clock : ρ → Nat := fun _ => 0

/-- Whether a character may stand in the name of a header. -/
def isTokenChar (c : Char) : Bool :=
  c.isAlphanum || "!#$%&'*+-.^_`|~".toList.contains c

/-- Whether a text can be the name of a header. -/
def isHeaderName (s : String) : Bool :=
  !s.isEmpty && s.toList.all isTokenChar

/-- Whether a text can be the value of a header: it has no control but the tab. -/
def isHeaderValue (s : String) : Bool :=
  s.toList.all fun c => c = '\t' || (0x20 ≤ c.toNat && c.toNat ≠ 0x7F)

/-- Whether the value of a header that was received can be read: it is plain ASCII. -/
def isReadableValue (s : String) : Bool :=
  s.toList.all fun c => c = '\t' || (0x20 ≤ c.toNat && c.toNat < 0x7F)

/-- A header's value without the blanks and tabs around it. -/
def trimValue (s : String) : String :=
  let drop (cs : List Char) := cs.dropWhile fun c => c = ' ' || c = '\t'
  String.ofList (drop (drop s.toList).reverse).reverse

/-- Whether an answer with this status has a body. -/
def statusHasBody (status : Nat) : Bool :=
  !(status = 204 || status = 304)

end EditLock
