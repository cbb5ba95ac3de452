/-
# References to objects

An object as an operation addresses it: its key, and what is needed to create it.

Key definitions: `ObjectRef`, `ObjectRef.make`, `ObjectRef.key`.
-/
import EditLock.Object.Key

namespace EditLock

/-- One object of the repository. -/
structure ObjectRef where
  kind : Kind
  name : String
  subKey : Option String := none
  /-- The package in which the object is created. -/
  package : Option String := none
  /-- The short description with which the object is created. -/
  description : Option String := none
deriving Repr, DecidableEq, Inhabited

namespace ObjectRef

/-- A reference by kind and name. -/
def make (kind : Kind) (name : String) : ObjectRef :=
  { kind, name := normalizeName name }

/-- The reference with its parent replaced. -/
def withSubKey (o : ObjectRef) (subKey : Option String) : ObjectRef :=
  { o with subKey := normalizeSubKey subKey }

/-- The reference with its package replaced. -/
def withPackage (o : ObjectRef) (package : Option String) : ObjectRef :=
  { o with package := package.map normalizeName }

/-- The reference with its description replaced. -/
def withDescription (o : ObjectRef) (description : Option String) : ObjectRef :=
  { o with description }

/-- The key under which the object's bookkeeping stands. -/
def key (o : ObjectRef) : Key :=
  .make o.kind o.name o.subKey

/-- The text of the object's key. -/
def toText (o : ObjectRef) : String :=
  o.key.toText

end ObjectRef

end EditLock
