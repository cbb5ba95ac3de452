/-
# The session store

Sessions are kept in a directory, one file `<id>.json` for each. An identifier is refused unless it
names exactly one file of the directory: 1 to 128 letters, digits, dots, underscores and hyphens
that do not start with a dot. A file is replaced as a whole, so that a reader finds the previous
session or the new one.

Key definitions: `SessionStore`, `SessionStore.create`, `SessionStore.openOrCreate`,
`SessionStore.save`, `SessionStore.saveWith`, `SessionStore.load`, `SessionStore.metadata`,
`SessionStore.list`, `SessionStore.delete`, `SessionStore.clear`, `WriteFault`.
-/
import EditLock.Files.Directory
import EditLock.Files.Path
import EditLock.Session.Record
import EditLock.Text.Quoted

namespace EditLock

/-- A directory of sessions and the path under which it is found. -/
structure SessionStore where
  path : String
  dir : Directory
deriving Repr, DecidableEq, Inhabited

/-- What is known of a session without decoding it as a whole. -/
structure SessionMetadata where
  origin : SessionOrigin
  /-- The age in milliseconds. -/
  ageMillis : Int
deriving Repr, DecidableEq, Inhabited

/-- The point at which a write fails that nothing is in the way of. -/
inductive WriteFault where
  /-- The directory cannot be made. -/
  | directory
  /-- The temporary file cannot be made. -/
  | temporary
  | write
  | flush
  /-- The temporary file cannot be renamed. -/
  | persist
deriving Repr, DecidableEq, Inhabited

namespace SessionStore

/-- Whether a character may stand in an identifier. -/
def isIdChar (c : Char) : Bool :=
  c.isAlphanum || c = '.' || c = '_' || c = '-'

/-- Whether a text is an identifier. -/
def isValidId (id : String) : Bool :=
  !id.isEmpty && id.utf8ByteSize ≤ 128 && id.toList.head? ≠ some '.' && id.toList.all isIdChar

/-- The failure of an identifier that is refused. -/
def invalidId (id : String) : Failure :=
  .config ("invalid session id: " ++ Text.quoted id)

/-- The name of the file of a session. -/
def fileName (id : String) : String :=
  id ++ ".json"

/-- The identifier whose session the file of this name keeps. -/
def idOfFile? (file : String) : Option String :=
  if file.endsWith ".json" then
    let id := String.ofList (file.toList.take (file.length - 5))
    if isValidId id then some id else none
  else none

/-- What an access to the file system reports that fails; its own words are not kept. -/
def systemText : String := "<os>"

/-- The file of a session as it is named in failures. -/
def filePath (s : SessionStore) (id : String) : String :=
  joinPath s.path (fileName id)

/-- The text of a session's file, if there is one. -/
def readRecord (s : SessionStore) (id : String) : Except Failure (Option String) :=
  if !isValidId id then .error (invalidId id)
  else match s.dir.read (fileName id) with
    | .ok text => .ok (some text)
    | .error .notFound => .ok none
    | .error _ => .error (.io s!"failed to read {s.filePath id}: {systemText}")

/-- Writes a session's file; with `overwrite` the file may be there already. -/
def writeRecord (session : Session) (overwrite : Bool) (s : SessionStore) :
    Except Failure Unit × SessionStore :=
  if !isValidId session.id then (.error (invalidId session.id), s)
  else match s.dir.create with
    | .error _ => (.error (.io s!"failed to create session dir {s.path}: {systemText}"), s)
    | .ok entries =>
      let created := { s with dir := .present entries }
      let written :=
        { s with dir := .present (Directory.put (fileName session.id) (.text session.write) entries) }
      match entries.lookup (fileName session.id) with
      | none => (.ok (), written)
      | some e =>
        if !overwrite then (.error (.alreadyExists s!"session {session.id}"), created)
        else if e = .directory then
          (.error (.io s!"failed to persist {s.filePath session.id}: {systemText}"), created)
        else (.ok (), written)

/-- Stores a session in place of the one with its identifier. -/
def save (session : Session) (s : SessionStore) : Except Failure Unit × SessionStore :=
  writeRecord session true s

/-- What is reported of a write that fails. -/
def faultText (s : SessionStore) (id : String) : WriteFault → String
  | .directory => s!"failed to create session dir {s.path}: {systemText}"
  | .temporary => s!"failed to create temporary file: {systemText}"
  | .write => s!"failed to write temporary file: {systemText}"
  | .flush => s!"failed to flush temporary file: {systemText}"
  | .persist => s!"failed to persist {s.filePath id}: {systemText}"

/-- Stores a session as far as the disk allows: if it fails, what was stored before stays. -/
def saveWith (fault : Option WriteFault) (session : Session) (s : SessionStore) :
    Except Failure Unit × SessionStore :=
  match fault with
  | none => s.save session
  | some fault =>
    if !isValidId session.id then (.error (invalidId session.id), s)
    else match fault, s.dir.create with
      | .directory, _ | _, .error _ => (.error (.io (s.faultText session.id .directory)), s)
      | fault, .ok entries =>
        (.error (.io (s.faultText session.id fault)), { s with dir := .present entries })

/-- Stores a new empty session; without `overwrite` there must be none with its identifier. -/
def create (id : String) (overwrite : Bool) (now : Instant) (pid : Nat) (s : SessionStore) :
    Except Failure Session × SessionStore :=
  let session := Session.new id now pid
  match writeRecord session overwrite s with
  | (.error e, s) => (.error e, s)
  | (.ok (), s) => (.ok session, s)

/-- The failure of a session's file that cannot be decoded. -/
def corrupt (id : String) : Failure :=
  .encoding s!"session {id}: <json>"

/-- The session stored under an identifier. -/
def load (s : SessionStore) (id : String) : Except Failure (Option Session) :=
  match s.readRecord id with
  | .error e => .error e
  | .ok none => .ok none
  | .ok (some text) =>
    match Session.read? text with
    | some session => .ok (some session)
    | none => .error (corrupt id)

/-- The session stored under an identifier, or a new one. -/
def openOrCreate (id : String) (now : Instant) (pid : Nat) (s : SessionStore) :
    Except Failure Session × SessionStore :=
  match s.load id with
  | .error e => (.error e, s)
  | .ok (some session) => (.ok session, s)
  | .ok none =>
    match s.create id false now pid with
    | (.error (.alreadyExists _), s) =>
      match s.load id with
      | .error e => (.error e, s)
      | .ok (some session) => (.ok session, s)
      | .ok none => (.error (.notFound s!"session {id}"), s)
    | other => other

/-- The identifiers of the stored sessions, in order. -/
def list (s : SessionStore) : Except Failure (List String) :=
  match s.dir.names with
  | .ok names => .ok ((names.filterMap idOfFile?).mergeSort fun a b => a ≤ b)
  | .error .notFound => .ok []
  | .error _ => .error (.io systemText)

/-- Removes a session and says whether there was one. -/
def delete (id : String) (s : SessionStore) : Except Failure Bool × SessionStore :=
  if !isValidId id then (.error (invalidId id), s)
  else match s.dir.remove (fileName id) with
    | .ok dir => (.ok true, { s with dir })
    | .error .notFound => (.ok false, s)
    | .error _ => (.error (.io systemText), s)

/-- Removes the sessions of a list and says how many were removed. -/
def deleteAll : List String → SessionStore → Except Failure Nat × SessionStore
  | [], s => (.ok 0, s)
  | id :: ids, s =>
    match s.delete id with
    | (.error e, s) => (.error e, s)
    | (.ok removed, s) =>
      match deleteAll ids s with
      | (.error e, s) => (.error e, s)
      | (.ok n, s) => (.ok (if removed then n + 1 else n), s)

/-- Removes all sessions and says how many were removed. -/
def clear (s : SessionStore) : Except Failure Nat × SessionStore :=
  match s.list with
  | .error e => (.error e, s)
  | .ok ids => deleteAll ids s

/-- When a session was created, by which process, and how old it is. -/
def metadata (s : SessionStore) (id : String) (now : Instant) :
    Except Failure (Option SessionMetadata) :=
  match s.readRecord id with
  | .error e => .error e
  | .ok none => .ok none
  | .ok (some text) =>
    match SessionOrigin.read? text with
    | some origin => .ok (some ⟨origin, now.millisSince origin.createdAt⟩)
    | none => .error (corrupt id)

end SessionStore

end EditLock
