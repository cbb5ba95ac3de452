/-
# Keys of objects

The bookkeeping for an object stands under its key: the kind, the name, and the parent's name where
the kind needs one. Names are kept trimmed and in upper case, so that two spellings of one object
meet in one key; a blank parent counts as none.

Key definitions: `normalizeName`, `Key`, `Key.make`, `Key.toText`, `Key.compare`.
-/
import EditLock.Object.Kind

namespace EditLock

/-- The form in which an object's name is kept. -/
def normalizeName (s : String) : String :=
  String.ofList (Text.upper (Text.trim s.toList))

/-- The form in which a parent's name is kept; a blank one is none. -/
def normalizeSubKey (s : Option String) : Option String :=
  (s.map normalizeName).filter fun s => !s.isEmpty

/-- The key of an object. -/
structure Key where
  kind : Kind
  name : String
  subKey : Option String
deriving Repr, DecidableEq, Inhabited

namespace Key

/-- The key of an object with these names, however they are spelt. -/
def make (kind : Kind) (name : String) (subKey : Option String) : Key :=
  ⟨kind, normalizeName name, normalizeSubKey subKey⟩

/-- The parent as a column of the registry: empty for none. -/
def subKeyColumn (k : Key) : String :=
  k.subKey.getD ""

/-- The text of a key. -/
def toText (k : Key) : String :=
  match k.subKey with
  | some sub => k.kind.name ++ ":" ++ sub ++ "/" ++ k.name
  | none => k.kind.name ++ ":" ++ k.name

/-- The order of parents: none comes first. -/
def compareSubKey : Option String → Option String → Ordering
  | none, none => .eq
  | none, some _ => .lt
  | some _, none => .gt
  | some a, some b => Ord.compare a b

/-- The order of keys: by kind, then by name, then by parent. -/
protected def compare (a b : Key) : Ordering :=
  (Ord.compare a.kind.rank b.kind.rank).then
    ((Ord.compare a.name b.name).then (compareSubKey a.subKey b.subKey))

/-- The keys in order, each once. -/
def sortDistinct (keys : List Key) : List Key :=
  (keys.mergeSort fun a b => (Key.compare a b).isLE).eraseReps

end Key

end EditLock
