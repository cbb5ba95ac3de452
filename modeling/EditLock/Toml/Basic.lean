/-
# Tables of settings

A settings text is a tree of tables. Each table remembers how it was first named, because that
decides what may still be added to it: a table opened by a header takes no second header and no
dotted key from outside, a table that a longer header or a dotted key implied may be opened or
extended, and an inline table is closed.

Key definitions: `Toml`, `Toml.Origin`, `Toml.modifyAt`, `Toml.insertKey`, `Toml.openTable`,
`Toml.openItem`.
-/
namespace EditLock

/-- How a table was first named. -/
inductive Toml.Origin where
  /-- By a header of its own, or as the whole text. -/
  | header
  /-- By a longer header. -/
  | implied
  /-- By a dotted key. -/
  | dotted
  /-- Between braces. -/
  | inline
deriving Repr, DecidableEq, Inhabited

/-- A value of a settings text. -/
inductive Toml where
  | text (value : String)
  | integer (value : Int)
  | float
  | boolean (value : Bool)
  /-- A date, a time of day or both. -/
  | moment
  | array (items : List Toml)
  | table (origin : Toml.Origin) (fields : List (String × Toml))
  /-- The tables that headers in double brackets opened under one name. -/
  | tables (items : List Toml)
deriving Inhabited

namespace Toml

/-- The names and values of a table. -/
abbrev Fields := List (String × Toml)

/-- The fields with the value of one name replaced. -/
def replace (name : String) (v : Toml) (fields : Fields) : Fields :=
  fields.map fun f => if f.1 == name then (name, v) else f

/-- Changes the table that a path leads to. A name that is missing on the way becomes a table of
the given origin; a dotted path does not enter tables that have a header; of several tables under
one name the last is entered. -/
def modifyAt (via : Origin) (change : Origin → Fields → Option Fields) :
    List String → Origin → Fields → Option Fields
  | [], origin, fields => change origin fields
  | name :: path, _, fields =>
    match fields.lookup name with
    | none => do
      let inner ← modifyAt via change path via []
      some (fields ++ [(name, .table via inner)])
    | some (.table origin inner) =>
      if origin = .inline ∨ (via = .dotted ∧ origin = .header) then none
      else do
        let inner ← modifyAt via change path origin inner
        some (replace name (.table origin inner) fields)
    | some (.tables items) =>
      match items.getLast? with
      | some (.table origin inner) => do
        let inner ← modifyAt via change path origin inner
        some (replace name (.tables (items.dropLast ++ [.table origin inner])) fields)
      | _ => none
    | some _ => none

/-- Adds a value under a key whose last part is `name`; the parts before it must lead to a table
that only dotted keys named. -/
def insertKey (path : List String) (name : String) (v : Toml) : Origin → Fields → Option Fields :=
  modifyAt .dotted
    (fun origin fields =>
      if (origin == .dotted) == path.isEmpty then none
      else if (fields.lookup name).isSome then none
      else some (fields ++ [(name, v)]))
    path

/-- Opens the table of a header. -/
def openTable (path : List String) (name : String) (root : Fields) : Option Fields :=
  modifyAt .implied
    (fun _ fields =>
      match fields.lookup name with
      | none => some (fields ++ [(name, .table .header [])])
      | some (.table .implied inner) => some (replace name (.table .header inner) fields)
      | some _ => none)
    path .header root

/-- Opens one more table under the name of a header in double brackets. -/
def openItem (path : List String) (name : String) (root : Fields) : Option Fields :=
  modifyAt .implied
    (fun _ fields =>
      match fields.lookup name with
      | none => some (fields ++ [(name, .tables [.table .header []])])
      | some (.tables items) =>
        some (replace name (.tables (items ++ [.table .header []])) fields)
      | some _ => none)
    path .header root

/-- The integers that a setting can have. -/
def isInteger (n : Int) : Bool :=
  -9223372036854775808 ≤ n && n ≤ 9223372036854775807

end Toml

end EditLock
