/-
# Addresses of objects

Where the server keeps an object: each kind has its collection, the collection of function modules
lies within their group, and the source of most kinds lies below the object. Names stand in
addresses in lower case, with their slashes escaped.

Key definitions: `collectionPath`, `objectPath`, `sourcePath`.
-/
import EditLock.Object.Ref

namespace EditLock.ObjectRef

/-- A name as a part of an address. -/
def segment (name : String) : String :=
  String.ofList ((Text.lower name.toList).flatMap fun c =>
    if c = '/' then ['%', '2', 'f'] else [c])

/-- The address of the collection of an object. -/
def collectionPath (o : ObjectRef) : Except Failure String :=
  match o.kind with
  | .objectClass => .ok "/sap/bc/adt/oo/classes"
  | .interface => .ok "/sap/bc/adt/oo/interfaces"
  | .program => .ok "/sap/bc/adt/programs/programs"
  | .include => .ok "/sap/bc/adt/programs/includes"
  | .functionGroup => .ok "/sap/bc/adt/functions/groups"
  | .functionModule =>
    match o.subKey with
    | some group => .ok ("/sap/bc/adt/functions/groups/" ++ segment group ++ "/fmodules")
    | none => .error (.config s!"{o.name} requires its function group as sub key")
  | .table => .ok "/sap/bc/adt/ddic/tables"
  | .dataStructure => .ok "/sap/bc/adt/ddic/structures"
  | .dataElement => .ok "/sap/bc/adt/ddic/dataelements"
  | .domain => .ok "/sap/bc/adt/ddic/domains"
  | .package => .ok "/sap/bc/adt/packages"
  | .view => .ok "/sap/bc/adt/ddic/ddl/sources"
  | .behavior => .ok "/sap/bc/adt/bo/behaviordefinitions"
  | .serviceDefinition => .ok "/sap/bc/adt/ddic/srvd/sources"
  | .metadataExtension => .ok "/sap/bc/adt/ddic/ddlx/sources"

/-- The address of an object. -/
def objectPath (o : ObjectRef) : Except Failure String :=
  o.collectionPath.map fun collection => collection ++ "/" ++ segment o.name

/-- Whether the source of an object lies below it. -/
def hasSource (k : Kind) : Bool :=
  !(k == .dataElement || k == .domain || k == .package || k == .functionGroup)

/-- The address of an object's source. -/
def sourcePath (o : ObjectRef) : Except Failure String :=
  o.objectPath.map fun path => if hasSource o.kind then path ++ "/source/main" else path

end EditLock.ObjectRef
