/-
# Options that commands share

Where settings are read and data is kept, how events are logged, and which object a command is
about.

Key definitions: `StorageOptions`, `Slot.path`, `Slot.count`, `objectOfWords?`,
`keyOfWords?`.
-/
import EditLock.Command.Words
import EditLock.Files.Tree
import EditLock.Object.Ref
import EditLock.Settings.Basic

namespace EditLock

namespace Slot

/-- A path, which is never empty. -/
def path (name about : String) (required : Bool := false) : Slot :=
  { name, about, required, admits := fun s => !s.isEmpty }

/-- Any text. -/
def text (name about : String) : Slot :=
  { name, about }

/-- One of some words. -/
def choice (name about : String) (words : List String) : Slot :=
  { name, about, admits := words.contains }

/-- The greatest number that can be given. -/
def maxCount : Nat := 18446744073709551615

/-- The number that a word writes: digits, and perhaps a plus sign. -/
def count? (word : String) : Option Nat :=
  let digits := match word.toList with
    | '+' :: ds => ds
    | ds => ds
  if digits.isEmpty || !digits.all Char.isDigit then none
  else
    let n := digits.foldl (fun n d => n * 10 + (d.toNat - '0'.toNat)) 0
    if n ≤ maxCount then some n else none

/-- A number. -/
def count (name about : String) : Slot :=
  { name, about, admits := fun s => (count? s).isSome }

/-- The kind of an object. -/
def kind (about : String) : Slot :=
  { name := "kind", about, admits := fun s => (Kind.parse s).toOption.isSome }

/-- The parent of an object. -/
def subKey : Slot :=
  text "sub-key" "Parent container (function group for function modules)"

end Slot

/-- The options that say where settings are read and data is kept. -/
structure StorageOptions where
  settings : Option String := none
  sessionDir : Option String := none
  lockDir : Option String := none
deriving Repr, DecidableEq, Inhabited

namespace StorageOptions

/-- The options of a command line. -/
def ofWords (w : Words) : StorageOptions :=
  { settings := w.value? "config", sessionDir := w.value? "session-dir"
    lockDir := w.value? "lock-dir" }

/-- The settings of the file that is named; the default ones if none is. -/
def read (o : StorageOptions) (files : FileTree) : Except Failure Settings :=
  match o.settings with
  | none => .ok {}
  | some path => Settings.ofFile (files.read path).toOption

/-- The settings with the directories replaced that are named. -/
def override (o : StorageOptions) (s : Settings) : Settings :=
  { s with
    storage :=
      { s.storage with
        sessionDir := o.sessionDir.or s.storage.sessionDir
        lockDir := o.lockDir.or s.storage.lockDir } }

/-- The slots of these options and of the one for the form of the log, between which others may
stand. -/
def slots (first second : List Slot) : List Slot :=
  [.path "config" "Path to the TOML configuration file"] ++ first ++
    [.path "session-dir" "Override the session directory",
     .path "lock-dir" "Override the lock registry directory"] ++ second ++
    [.choice "log-format"
      "Log output format (text or json) [default: text] [possible values: text, json]"
      ["text", "json"]]

end StorageOptions

/-- The kind and the name that the words of a command give. -/
def kindAndName? (w : Words) : Option (Kind × String) :=
  match w.operands with
  | [kind, name] => (Kind.parse kind).toOption.map fun kind => (kind, name)
  | _ => none

/-- The object that the words of a command name. -/
def objectOfWords? (w : Words) : Option ObjectRef :=
  (kindAndName? w).map fun o => (ObjectRef.make o.1 o.2).withSubKey (w.value? "sub-key")

/-- The key of the object that the words of a command name. -/
def keyOfWords? (w : Words) : Option Key :=
  (kindAndName? w).map fun o => .make o.1 o.2 (w.value? "sub-key")

end EditLock
