/-
# Stored sessions

The form in which a session is stored, and the two readers of it: one for the whole session, one
for the creation time and the owner only.

Key definitions: `Session.toJson`, `Session.ofJson?`, `Session.write`, `Session.read?`,
`SessionOrigin`, `SessionOrigin.ofJson?`.
-/
import EditLock.Json.Fields
import EditLock.Json.Reader
import EditLock.Json.Writer
import EditLock.Session.Basic
import EditLock.Time.Writing

namespace EditLock

namespace Session

/-- A session as a data value. -/
def toJson (s : Session) : Json :=
  .record
    [("session_id", .text s.id),
     ("cookies", .text s.cookies),
     ("csrf_token", .textOrNull s.token),
     ("cookie_store", .record (s.jar.map fun c => (c.1, .text c.2))),
     ("created_at", .text s.createdAt.toTextZ),
     ("updated_at", .text s.updatedAt.toTextZ),
     ("owner_pid", .integer s.pid)]

/-- The names of a session's fields. -/
def fieldNames : List String :=
  ["session_id", "cookies", "csrf_token", "cookie_store", "created_at", "updated_at", "owner_pid"]

/-- The session that a data value stands for. Cookies and token may be missing. -/
def ofJson? (v : Json) : Option Session := do
  match ← v.slots? fieldNames with
  | [id, cookies, token, jar, createdAt, updatedAt, pid] =>
    let id ← Json.required? Json.text? id
    let cookies ← Json.defaulted? "" Json.text? cookies
    let token ← Json.defaulted? none Json.optionalText? token
    let jar ← Json.defaulted? [] Json.textMap? jar
    let createdAt ← Json.required? Json.instant? createdAt
    let updatedAt ← Json.required? Json.instant? updatedAt
    let pid ← Json.required? Json.pid? pid
    pure { id, cookies, token, jar := .ofList jar, createdAt, updatedAt, pid }
  | _ => none

/-- The text under which a session is stored. -/
def write (s : Session) : String :=
  s.toJson.pretty

/-- The session that a text stores. -/
def read? (text : String) : Option Session :=
  (Json.read? text).bind ofJson?

end Session

/-- When a session was created and by which process. -/
structure SessionOrigin where
  createdAt : Instant
  pid : Nat
deriving Repr, DecidableEq, Inhabited

namespace SessionOrigin

/-- The origin in a data value that stands for a session. -/
def ofJson? (v : Json) : Option SessionOrigin := do
  match ← v.slots? ["created_at", "owner_pid"] with
  | [createdAt, pid] =>
    let createdAt ← Json.required? Json.instant? createdAt
    let pid ← Json.required? Json.pid? pid
    pure { createdAt, pid }
  | _ => none

/-- The origin of the session that a text stores. -/
def read? (text : String) : Option SessionOrigin :=
  (Json.read? text).bind ofJson?

end SessionOrigin

end EditLock
