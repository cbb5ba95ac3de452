/-
# Lock records

One outstanding lock: the object, the session that holds it, and the handle that the server gave.
The registry keeps a record as a row of texts; reading a row back can fail.

Key definitions: `LockRecord`, `LockRecord.key`, `LockRecord.ofJson?`, `Row`, `Row.ofRecord`,
`Row.decode`.
-/
import EditLock.Json.Fields
import EditLock.Object.Ref
import EditLock.Time.Writing

namespace EditLock

/-- One outstanding lock. -/
structure LockRecord where
  kind : Kind
  name : String
  subKey : Option String
  session : String
  /-- What the server gave for the lock. -/
  handle : String
  acquiredAt : Instant
  /-- The process that acquired the lock. -/
  pid : Nat
deriving Repr, DecidableEq, Inhabited

namespace LockRecord

/-- The record of a lock on the object of a key. -/
def make (key : Key) (session handle : String) (acquiredAt : Instant) (pid : Nat) : LockRecord :=
  { kind := key.kind, name := key.name, subKey := key.subKey, session, handle, acquiredAt, pid }

/-- The key of the record's object. -/
def key (r : LockRecord) : Key :=
  .make r.kind r.name r.subKey

/-- A record as a data value. -/
def toJson (r : LockRecord) : Json :=
  .record
    [("object_kind", .text r.kind.name),
     ("object_name", .text r.name),
     ("sub_key", .textOrNull r.subKey),
     ("session_id", .text r.session),
     ("lock_handle", .text r.handle),
     ("acquired_at", .text r.acquiredAt.toTextZ),
     ("owner_pid", .integer r.pid)]

/-- The names of a record's fields. -/
def fieldNames : List String :=
  ["object_kind", "object_name", "sub_key", "session_id", "lock_handle", "acquired_at",
   "owner_pid"]

/-- The record that a data value stands for. The parent may be missing. -/
def ofJson? (v : Json) : Option LockRecord := do
  match ← v.slots? fieldNames with
  | [kind, name, subKey, session, handle, acquiredAt, pid] =>
    let kind ← Json.required? Kind.ofJson? kind
    let name ← Json.required? Json.text? name
    let subKey ← Json.defaulted? none Json.optionalText? subKey
    let session ← Json.required? Json.text? session
    let handle ← Json.required? Json.text? handle
    let acquiredAt ← Json.required? Json.instant? acquiredAt
    let pid ← Json.required? Json.pid? pid
    pure { kind, name, subKey, session, handle, acquiredAt, pid }
  | _ => none

end LockRecord

/-- A row of the registry, as it is stored. -/
structure Row where
  kind : String
  name : String
  /-- Empty where the object has no parent. -/
  subKey : String
  session : String
  handle : String
  acquiredAt : String
  pid : Int
deriving Repr, DecidableEq, Inhabited

namespace Row

/-- The columns that no two rows share. -/
def columns (r : Row) : String × String × String :=
  (r.kind, r.name, r.subKey)

/-- The columns under which the object of a key is stored. -/
def columnsOf (k : Key) : String × String × String :=
  (k.kind.name, k.name, k.subKeyColumn)

/-- The row of a record. -/
def ofRecord (r : LockRecord) : Row :=
  let key := r.key
  { kind := key.kind.name, name := key.name, subKey := key.subKeyColumn, session := r.session,
    handle := r.handle, acquiredAt := r.acquiredAt.toText, pid := r.pid }

/-- The record of a row. -/
def decode (r : Row) : Except Failure LockRecord :=
  match Kind.parse r.kind, Instant.readStrict? r.acquiredAt, r.pid with
  | .error _, _, _ => .error (.database s!"invalid object kind: {r.kind}")
  | _, none, _ => .error (.database "invalid acquired_at: <time>")
  | .ok kind, some acquiredAt, pid =>
    if pid < 0 || (Json.maxPid : Int) < pid then
      .error (.database s!"invalid owner_pid: {pid}")
    else
      .ok { kind, name := r.name, subKey := if r.subKey.isEmpty then none else some r.subKey,
            session := r.session, handle := r.handle, acquiredAt, pid := pid.toNat }

/-- The order of rows: by kind, name and parent, as texts. -/
def compare (a b : Row) : Ordering :=
  (Ord.compare a.kind b.kind).then
    ((Ord.compare a.name b.name).then (Ord.compare a.subKey b.subKey))

end Row

end EditLock
