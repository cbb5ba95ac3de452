/-
# Sessions

One authenticated conversation with the server: its cookies, its token against forged requests, and
who created it when. The session keeps the `Cookie` header beside the jar.

Key definitions: `SessionMode`, `Session`, `Session.mergeSetCookie`, `Session.setToken`,
`Session.clearCredentials`, `Session.ageMillis`.
-/
import EditLock.Object.Kind
import EditLock.Session.Cookies
import EditLock.Time.Instant

namespace EditLock

/-- How requests are routed: `stateful` pins them to the server process that holds the session. -/
inductive SessionMode where
  | stateful
  | stateless
deriving Repr, DecidableEq

instance : Inhabited SessionMode := ⟨.stateless⟩

namespace SessionMode

/-- The header value for a mode. -/
def name : SessionMode → String
  | stateful => "stateful"
  | stateless => "stateless"

/-- The mode with a name. -/
def ofName? (s : String) : Option SessionMode :=
  [stateful, stateless].find? fun m => m.name == s

/-- The mode that a data value stands for. -/
def ofJson? (v : Json) : Option SessionMode :=
  (Kind.chosenName? v).bind ofName?

end SessionMode

/-- One conversation with the server. -/
structure Session where
  id : String
  /-- The value of the `Cookie` header. -/
  cookies : String := ""
  /-- The token that requests which change something must carry. -/
  token : Option String := none
  jar : CookieJar := []
  createdAt : Instant
  /-- When the stored form was last changed. -/
  updatedAt : Instant
  /-- The process that created the session. -/
  pid : Nat
deriving Repr, DecidableEq, Inhabited

namespace Session

/-- An empty session. -/
def new (id : String) (now : Instant) (pid : Nat) : Session :=
  { id, createdAt := now, updatedAt := now, pid }

/-- The session after a `Set-Cookie` header, and whether it changed. -/
def mergeSetCookie (s : Session) (header : String) : Session × Bool :=
  match readSetCookie? header.toList with
  | none => (s, false)
  | some (name, value) =>
    let name := String.ofList name
    let value := String.ofList value
    if s.jar.get? name = some value then (s, false)
    else
      let jar : CookieJar := s.jar.insert name value
      ({ s with jar, cookies := jar.header }, true)

/-- The session with its token replaced, and whether it changed. -/
def setToken (s : Session) (token : Option String) : Session × Bool :=
  if s.token = token then (s, false) else ({ s with token }, true)

/-- The session without cookies and token. -/
def clearCredentials (s : Session) : Session :=
  { s with cookies := "", jar := [], token := none }

/-- The age of the session in milliseconds, rounded toward zero. -/
def ageMillis (s : Session) (now : Instant) : Int :=
  now.millisSince s.createdAt

end Session

end EditLock
