/-
# Kinds of objects

The kinds of repository objects that have an edit lock, in a fixed order, with their names and the
other spellings under which they are known. A spelling is read without its outer blanks and ASCII
letter case, and with a blank or a hyphen for an underscore.

Key definitions: `Kind`, `Kind.name`, `Kind.parse`, `Kind.ofJson?`.
-/
import EditLock.Failure
import EditLock.Json.Basic
import EditLock.Text.Case

namespace EditLock

/-- A kind of repository object. -/
inductive Kind where
  | objectClass
  | interface
  | program
  | include
  | functionGroup
  /-- Its name is unique within its function group only. -/
  | functionModule
  | table
  | dataStructure
  | dataElement
  | domain
  | package
  | view
  | behavior
  | serviceDefinition
  | metadataExtension
deriving Repr, DecidableEq, Inhabited

namespace Kind

/-- All kinds, in their order. -/
def all : List Kind :=
  [.objectClass, .interface, .program, .include, .functionGroup, .functionModule, .table,
   .dataStructure, .dataElement, .domain, .package, .view, .behavior, .serviceDefinition,
   .metadataExtension]

/-- The name under which a kind is stored. -/
def name : Kind → String
  | .objectClass => "class"
  | .interface => "interface"
  | .program => "program"
  | .include => "include"
  | .functionGroup => "function_group"
  | .functionModule => "function_module"
  | .table => "table"
  | .dataStructure => "structure"
  | .dataElement => "data_element"
  | .domain => "domain"
  | .package => "package"
  | .view => "view"
  | .behavior => "behavior"
  | .serviceDefinition => "service_definition"
  | .metadataExtension => "metadata_extension"

/-- The other spellings of a kind. -/
def aliases : Kind → List String
  | .objectClass => ["clas"]
  | .interface => ["intf"]
  | .program => ["prog"]
  | .include => ["incl"]
  | .functionGroup => ["functiongroup", "fugr"]
  | .functionModule => ["functionmodule", "func", "fm"]
  | .table => ["tabl"]
  | .dataStructure => ["stru"]
  | .dataElement => ["dataelement", "dtel"]
  | .domain => ["doma"]
  | .package => ["devc"]
  | .view => ["ddls"]
  | .behavior => ["behavior_definition", "bdef"]
  | .serviceDefinition => ["servicedefinition", "srvd"]
  | .metadataExtension => ["metadataextension", "ddlx"]

/-- The place of a kind in the order. -/
def rank (k : Kind) : Nat :=
  k.ctorIdx

/-- Whether an object's name is unique only within a parent. -/
def needsSubKey (k : Kind) : Bool :=
  k == .functionModule

/-- The kind that is stored under a name. -/
def ofName? (s : String) : Option Kind :=
  all.find? fun k => k.name == s

/-- A spelling without its free variations. -/
def foldSpelling (s : String) : String :=
  String.ofList ((Text.asciiLower (Text.trimmed s)).toList.map fun c =>
    if c = '-' ∨ c = ' ' then '_' else c)

/-- The kind that a spelling names. -/
def parse (s : String) : Except Failure Kind :=
  let folded := foldSpelling s
  match all.find? fun k => k.name == folded || k.aliases.contains folded with
  | some k => .ok k
  | none => .error (.config s!"unsupported object kind: {folded}")

/-- The name that a data value chooses: a string, or an object whose one field has it as its name
and null as its value. -/
def chosenName? : Json → Option String
  | .string s => s
  | .object [(k, .null)] => k
  | _ => none

/-- The kind that a data value stands for. -/
def ofJson? (v : Json) : Option Kind :=
  (chosenName? v).bind ofName?

theorem mem_all (k : Kind) : k ∈ all := by
  cases k <;> decide

/-- Different kinds are stored under different names. -/
theorem name_inj {a b : Kind} : a.name = b.name ↔ a = b := by
  constructor
  · cases a <;> cases b <;> decide
  · rintro rfl; rfl

end Kind

end EditLock
