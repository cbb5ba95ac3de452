/-
# A directory of files

One directory as it can be found: missing, in the way of something that is no directory, or there
with its entries. Reading follows symbolic links between the entries; writing and removing act on
the entry itself.

Key definitions: `Entry`, `Directory`, `Directory.read`, `Directory.write`, `Directory.remove`,
`Directory.names`.
-/
namespace EditLock

/-- What stands under a name in a directory. -/
inductive Entry where
  | text (content : String)
  /-- A file whose bytes are no text. -/
  | binary
  | directory
  /-- A symbolic link. -/
  | link (target : String)
deriving Repr, DecidableEq, Inhabited

/-- A directory as it is found under its path. -/
inductive Directory where
  | missing
  /-- Something that is no directory stands under the path. -/
  | obstructed
  /-- The entries, each name at most once. -/
  | present (entries : List (String × Entry))
deriving Repr, DecidableEq, Inhabited

/-- Why an access failed. -/
inductive AccessError where
  /-- There is nothing under the name. -/
  | notFound
  /-- There is something under the name already. -/
  | exists
  | other
deriving Repr, DecidableEq, Inhabited

namespace Directory

/-- The entry under a name. -/
def find? (name : String) : Directory → Option Entry
  | present entries => entries.lookup name
  | _ => none

/-- Follows links from an entry, at most `hops` times. -/
def follow (entries : List (String × Entry)) : Nat → Entry → Except AccessError Entry
  | 0, _ => .error .other
  | hops + 1, .link target =>
    if target = "." ∨ target = ".." then .ok .directory
    else match entries.lookup target with
      | none => .error .notFound
      | some e => follow entries hops e
  | _, e => .ok e

/-- The number of links that are followed before a chain counts as a cycle. -/
def maxHops : Nat := 41

/-- The text of the file under a name. -/
def read (name : String) : Directory → Except AccessError String
  | missing => .error .notFound
  | obstructed => .error .other
  | present entries =>
    match entries.lookup name with
    | none => .error .notFound
    | some e => do
      match ← follow entries maxHops e with
      | .text content => .ok content
      | _ => .error .other

/-- The entries with one of them replaced or added. -/
def put (name : String) (e : Entry) (entries : List (String × Entry)) : List (String × Entry) :=
  entries.filter (fun f => f.1 != name) ++ [(name, e)]

/-- Makes sure that the directory is there. -/
def create : Directory → Except AccessError (List (String × Entry))
  | missing => .ok []
  | obstructed => .error .other
  | present entries => .ok entries

/-- Puts an entry under a name whatever was there. -/
def set (name : String) (e : Entry) : Directory → Directory
  | present entries => present (put name e entries)
  | _ => present [(name, e)]

/-- Removes the file or link under a name. -/
def remove (name : String) : Directory → Except AccessError Directory
  | missing => .error .notFound
  | obstructed => .error .other
  | present entries =>
    match entries.lookup name with
    | none => .error .notFound
    | some .directory => .error .other
    | some _ => .ok (present (entries.filter fun f => f.1 != name))

/-- The names of the entries, in order. -/
def names : Directory → Except AccessError (List String)
  | missing => .error .notFound
  | obstructed => .error .other
  | present entries => .ok ((entries.map Prod.fst).mergeSort fun a b => a ≤ b)

end Directory

end EditLock
