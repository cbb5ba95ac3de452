/-
# Settings

What can be set in a settings file: the server, the store, and how chains behave. A setting that is
missing has its default, and one that is not known is passed over. Settings that were read are
checked: the first rule that is broken is reported.

Key definitions: `Settings`, `Settings.ofToml?`, `Settings.check`, `Settings.read`,
`Settings.staleAfter?`.
-/
import EditLock.Failure
import EditLock.Toml.Reader

namespace EditLock

/-- Where sessions and lock records are stored, and when they go stale. -/
structure StorageSettings where
  sessionDir : Option String := none
  lockDir : Option String := none
  /-- The age in seconds from which sessions and lock records are swept. -/
  staleAfterSeconds : Nat := 1800
deriving Repr, DecidableEq, Inhabited

/-- How chains behave. -/
structure ChainSettings where
  /-- Whether an object is activated after it was updated. -/
  activate : Bool := true
  /-- Whether an object is deleted if the chain that created it fails. -/
  deleteOnFailure : Bool := false
  /-- How long a read waits for an object to become visible. -/
  consistencySeconds : Nat := 30
deriving Repr, DecidableEq, Inhabited

/-- How long a read waits for an object to become visible, in milliseconds. -/
def ChainSettings.consistencyMillis (c : ChainSettings) : Nat :=
  c.consistencySeconds * 1000

/-- All settings. -/
structure Settings where
  baseUrl : Option String := none
  /-- The client that is named in every request. -/
  client : Option String := none
  language : Option String := none
  /-- How long a request may take. -/
  requestSeconds : Nat := 60
  storage : StorageSettings := {}
  chain : ChainSettings := {}
deriving Repr, DecidableEq, Inhabited

namespace Settings

/-- The value of each named setting of a section. A section may also be written as an array of
values in the settings' order, and a date in its place sets nothing. -/
def slots? (names : List String) : Toml → Option (List (Option Toml))
  | .table _ fields => some (names.map fun name => fields.lookup name)
  | .array items => some ((List.range names.length).map fun i => items[i]?)
  | .tables items => some ((List.range names.length).map fun i => items[i]?)
  | .moment => some (names.map fun _ => none)
  | _ => none

/-- Reads a setting that has a default. -/
def slot? {α : Type} (default : α) (read : Toml → Option α) : Option Toml → Option α
  | none => some default
  | some v => read v

/-- Reads a text that may be unset. -/
def text? : Toml → Option (Option String)
  | .text s => some (some s)
  | _ => none

/-- Reads a truth value. -/
def truth? : Toml → Option Bool
  | .boolean b => some b
  | _ => none

/-- Reads a number that is not negative. -/
def number? : Toml → Option Nat
  | .integer (.ofNat n) => some n
  | _ => none

/-- Reads the section on the store. -/
def storage? (v : Toml) : Option StorageSettings := do
  match ← slots? ["session_dir", "lock_dir", "stale_after_seconds"] v with
  | [sessionDir, lockDir, staleAfter] =>
    let sessionDir ← slot? none text? sessionDir
    let lockDir ← slot? none text? lockDir
    let staleAfterSeconds ← slot? ({} : StorageSettings).staleAfterSeconds number? staleAfter
    pure { sessionDir, lockDir, staleAfterSeconds }
  | _ => none

/-- Reads the section on chains. -/
def chain? (v : Toml) : Option ChainSettings := do
  match ← slots? ["activate", "delete_on_failure", "consistency_timeout_seconds"] v with
  | [activate, deleteOnFailure, consistency] =>
    let activate ← slot? ({} : ChainSettings).activate truth? activate
    let deleteOnFailure ← slot? ({} : ChainSettings).deleteOnFailure truth? deleteOnFailure
    let consistencySeconds ← slot? ({} : ChainSettings).consistencySeconds number? consistency
    pure { activate, deleteOnFailure, consistencySeconds }
  | _ => none

/-- The settings that the fields of a settings text make. -/
def ofToml? (fields : Toml.Fields) : Option Settings := do
  let baseUrl ← slot? none text? (fields.lookup "base_url")
  let client ← slot? none text? (fields.lookup "client")
  let language ← slot? none text? (fields.lookup "language")
  let requestSeconds ← slot? ({} : Settings).requestSeconds number?
    (fields.lookup "request_timeout_seconds")
  let storage ← slot? {} storage? (fields.lookup "storage")
  let chain ← slot? {} chain? (fields.lookup "chain")
  pure { baseUrl, client, language, requestSeconds, storage, chain }

/-- Whether a text starts as the address of a server does. -/
def isServerAddress (s : String) : Bool :=
  s.startsWith "http://" || s.startsWith "https://"

/-- The settings themselves if they keep the rules, or the first rule that they break. -/
def check (s : Settings) : Except Failure Settings :=
  match s.baseUrl.filter fun url => !isServerAddress url with
  | some url => .error (.config s!"base_url must start with http:// or https://: {url}")
  | none =>
    if s.requestSeconds = 0 then
      .error (.config "request_timeout_seconds must be greater than zero")
    else if s.storage.staleAfterSeconds = 0 then
      .error (.config "stale_after_seconds must be greater than zero")
    else .ok s

/-- The settings of a text. -/
def read (text : String) : Except Failure Settings :=
  match (Toml.read? text).bind ofToml? with
  | none => .error (.config "invalid config: <toml>")
  | some s => s.check

/-- The settings of a file's text; nothing if the file cannot be read as text. -/
def ofFile (text : Option String) : Except Failure Settings :=
  match text with
  | none => .error (.config "failed to read config: <os>")
  | some text => read text

/-- The server's address, which must be known. -/
def requireBaseUrl (s : Settings) : Except Failure String :=
  match s.baseUrl with
  | some url => .ok url
  | none => .error (.config "base_url is not configured (or ADT_BASE_URL)")

/-- The greatest number of seconds that a span of time can have: its milliseconds are counted in 64
bits with a sign. -/
def maxSpanSeconds : Nat := 9223372036854775

/-- The age in seconds from which entries are stale, if there is such a span of time. -/
def staleAfter? (s : Settings) : Option Nat :=
  if s.storage.staleAfterSeconds ≤ maxSpanSeconds then some s.storage.staleAfterSeconds else none

/-- How long a request may take, in milliseconds. -/
def requestMillis (s : Settings) : Nat :=
  s.requestSeconds * 1000

end Settings

end EditLock
