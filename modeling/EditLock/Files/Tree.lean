/-
# A tree of files

All files that a run can reach, each under the names that lead to it from the root. A path is read
name by name, and only a directory has anything under it. One directory of the tree can be taken
out, in the form in which a store uses it, and put back.

Key definitions: `Place`, `FileTree`, `FileTree.place`, `FileTree.read`,
`FileTree.makeDirectories`, `FileTree.directory`, `FileTree.putDirectory`.
-/
import EditLock.Files.Directory

namespace EditLock

/-- The names that lead from the root to an entry. -/
abbrev Place := List String

/-- The files of a machine. -/
structure FileTree where
  /-- The directory from which paths are read that do not start at the root. -/
  here : Place := []
  /-- The entries, each place at most once. -/
  entries : List (Place × Entry) := []
deriving Repr, DecidableEq, Inhabited

namespace FileTree

/-- The entry at a place. The root is a directory. -/
def find? (t : FileTree) (p : Place) : Option Entry :=
  if p = [] then some .directory else t.entries.lookup p

/-- The names in a path, where an empty one stands for the directory itself. -/
def namesOf (path : String) : List String :=
  (path.toList.splitOn '/').map String.ofList

/-- The place from which a path is read. -/
def start (t : FileTree) (path : String) : Place :=
  if path.startsWith "/" then [] else t.here

/-- The place that a name means at a place. -/
def under (p : Place) (name : String) : Place :=
  if name = "" ∨ name = "." then p
  else if name = ".." then p.dropLast
  else p ++ [name]

/-- Goes on by one name. Where it leads need not exist. -/
def step (t : FileTree) (p : Place) (name : String) : Except AccessError Place :=
  match t.find? p with
  | none => .error .notFound
  | some .directory => .ok (under p name)
  | some _ => .error .other

/-- The place to which a path leads. -/
def place (t : FileTree) (path : String) : Except AccessError Place :=
  (namesOf path).foldlM t.step (t.start path)

/-- The entry at a place as one of its directory, with its name. -/
def child? (p : Place) (e : Place × Entry) : Option (String × Entry) :=
  match e.1.getLast? with
  | some name => if e.1.dropLast = p then some (name, e.2) else none
  | none => none

/-- The directory at a place. -/
def directory (t : FileTree) (p : Place) : Directory :=
  match t.find? p with
  | none => .missing
  | some .directory => .present (t.entries.filterMap (child? p))
  | some _ => .obstructed

/-- The directory to which a path leads. -/
def directoryAt (t : FileTree) (path : String) : Directory :=
  match t.place path with
  | .ok p => t.directory p
  | .error .notFound => .missing
  | .error _ => .obstructed

/-- The text of the file to which a path leads. -/
def read (t : FileTree) (path : String) : Except AccessError String := do
  let p ← t.place path
  match p.getLast? with
  | some name => (t.directory p.dropLast).read name
  | none => .error .other

/-- The tree with an entry put at a place. -/
def set (p : Place) (e : Entry) (t : FileTree) : FileTree :=
  { t with entries := t.entries.filter (fun f => f.1 != p) ++ [(p, e)] }

/-- What was put at a place is found there. -/
theorem find?_set_self {p : Place} (h : p ≠ []) (e : Entry) (t : FileTree) :
    (t.set p e).find? p = some e := by
  have none : (t.entries.filter fun f => f.1 != p).lookup p = none := by
    rw [List.lookup_eq_none_iff]
    intro f hf
    have : f.1 ≠ p := by simpa using (List.mem_filter.mp hf).2
    simpa using Ne.symm this
  simp [find?, set, h, List.lookup_append, none]

/-- What stands at other places stays as it was. -/
theorem find?_set_of_ne {p q : Place} (h : q ≠ p) (e : Entry) (t : FileTree) :
    (t.set p e).find? q = t.find? q := by
  have kept (entries : List (Place × Entry)) :
      (entries.filter fun f => f.1 != p).lookup q = entries.lookup q := by
    induction entries with
    | nil => rfl
    | cons f fs ih =>
      obtain ⟨r, e⟩ := f
      by_cases hr : r = p
      · have other : (q == p) = false := by simpa using h
        simp [hr, List.lookup_cons, other, ih]
      · simp [hr, List.lookup_cons, ih]
  have other : (q == p) = false := by simpa using h
  by_cases hq : q = []
  · simp [find?, hq]
  · simp [find?, set, hq, List.lookup_append, kept, List.lookup_cons, other]

/-- Goes on by one name and makes a directory there if there is nothing. -/
def makeStep (spot : Place × FileTree) (name : String) : Except AccessError (Place × FileTree) :=
  let p := under spot.1 name
  match spot.2.find? p with
  | none => .ok (p, spot.2.set p .directory)
  | some .directory => .ok (p, spot.2)
  | some _ => .error .other

/-- Makes sure that a path leads to a directory. -/
def makeDirectories (path : String) (t : FileTree) : Except AccessError (Place × FileTree) :=
  (namesOf path).foldlM makeStep (t.start path, t)

/-- The tree with the directory to which a path leads as it is given. -/
def putDirectory (path : String) (d : Directory) (t : FileTree) : FileTree :=
  match d, t.makeDirectories path with
  | .present entries, .ok (p, t) =>
    { t with
      entries := t.entries.filter (fun e => (child? p e).isNone) ++
        entries.map fun e => (p ++ [e.1], e.2) }
  | _, _ => t

end FileTree

end EditLock
