/-
# Registries as texts

The form in which a registry is kept in a file: an array of its rows, each an array of its columns.

Key definitions: `Registry.write`, `Registry.read?`.
-/
import EditLock.Json.Reader
import EditLock.Json.Writer
import EditLock.Registry.Table

namespace EditLock

namespace Row

/-- A row as a data value. -/
def toJson (r : Row) : Json :=
  .array [.text r.kind, .text r.name, .text r.subKey, .text r.session, .text r.handle,
    .text r.acquiredAt, .integer r.pid]

/-- The row that a data value stands for. -/
def ofJson? : Json → Option Row
  | .array [kind, name, subKey, session, handle, acquiredAt, .integer pid] => do
    let kind ← kind.text?
    let name ← name.text?
    let subKey ← subKey.text?
    let session ← session.text?
    let handle ← handle.text?
    let acquiredAt ← acquiredAt.text?
    pure { kind, name, subKey, session, handle, acquiredAt, pid }
  | _ => none

/-- A row is read back as it was written. -/
theorem ofJson?_toJson (r : Row) : ofJson? r.toJson = some r := by
  rfl

end Row

namespace Registry

/-- The text of a registry. -/
def write (r : Registry) : String :=
  (Json.array (r.rows.map Row.toJson)).compact

/-- The registry of a text. -/
def read? (text : String) : Option Registry := do
  match ← Json.read? text with
  | .array rows => (rows.mapM Row.ofJson?).map fun rows => { rows }
  | _ => none

end Registry

end EditLock
