/-
# Records as data values

How a record with named fields is read from a data value: from an object, in which a known name
stands at most once and unknown names are passed over, or from an array of exactly the fields'
values in their order.

Key definitions: `Json.Slots`, `Json.slots?`, `Json.required?`, `Json.optionalText?`,
`Json.textMap?`.
-/
import EditLock.Json.Basic
import EditLock.Time.Reading

namespace EditLock.Json

/-- The value of each field of a record, in the fields' order; `none` for one that is missing. -/
abbrev Slots := List (Option Json)

/-- The value that stands under a name: `none` if the name stands there twice. -/
def single? (fields : List (Option String × Json)) (name : String) : Option (Option Json) :=
  match fields.filter fun f => f.1 == some name with
  | [] => some none
  | [f] => some (some f.2)
  | _ => none

/-- The values of the named fields. -/
def slots? (names : List String) : Json → Option Slots
  | .object fields =>
    if fields.all fun f => f.1.isSome then names.mapM (single? fields) else none
  | .array items => if items.length = names.length then some (items.map some) else none
  | _ => none

/-- Reads a field that must be there. -/
def required? {α : Type} (read : Json → Option α) (slot : Option Json) : Option α :=
  slot.bind read

/-- Reads a field that has a default. -/
def defaulted? {α : Type} (default : α) (read : Json → Option α) : Option Json → Option α
  | none => some default
  | some v => read v

/-- Reads a text, or null as no text. -/
def optionalText? : Json → Option (Option String)
  | .null => some none
  | v => v.text?.map some

/-- Reads an object of texts; of several fields with one name the last counts. -/
def textMap? : Json → Option (List (String × String))
  | .object fields => fields.mapM fun f => do
    let name ← f.1
    let value ← f.2.text?
    pure (name, value)
  | _ => none

/-- Reads an instant. -/
def instant? (v : Json) : Option Instant :=
  v.text?.bind Instant.readLenient?

/-- The greatest process number. -/
def maxPid : Nat := 4294967295

/-- Reads a process number. -/
def pid? (v : Json) : Option Nat :=
  v.natural? maxPid

end EditLock.Json
