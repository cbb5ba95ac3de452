/-
# The environment of a run

What the environment adds to the settings: an address and a client where the file sets none, the
credentials, and the place of the stored files where the file names none.

Key definitions: `Environment`, `Settings.complete`, `Settings.sessionDir`, `Settings.lockDbPath`,
`Credentials`, `Credentials.load`, `Credentials.shown`.
-/
import EditLock.Files.Path
import EditLock.Settings.Basic
import EditLock.Text.Quoted

namespace EditLock

/-- The variables that are looked at; `none` for one that is unset. -/
structure Environment where
  baseUrl : Option String := none
  client : Option String := none
  token : Option String := none
  username : Option String := none
  password : Option String := none
  /-- Where all data is kept. -/
  dataRoot : Option String := none
  home : Option String := none
  /-- What stands for `home` where that is unset. -/
  userProfile : Option String := none
deriving Repr, DecidableEq, Inhabited

namespace Environment

/-- The value of a variable, of which an empty one counts as unset. -/
def nonEmpty (v : Option String) : Option String :=
  v.filter fun s => !s.isEmpty

/-- The directory under which data is kept. -/
def root (env : Environment) : String :=
  match env.dataRoot with
  | some root => root
  | none => joinPath ((env.home.or env.userProfile).getD ".") ".adt-locksmith"

end Environment

namespace Settings

/-- The settings with what the environment adds to them. -/
def complete (s : Settings) (env : Environment) : Settings :=
  { s with
    baseUrl := s.baseUrl.or (Environment.nonEmpty env.baseUrl)
    client := s.client.or (Environment.nonEmpty env.client) }

/-- The directory of the sessions. -/
def sessionDir (s : Settings) (env : Environment) : String :=
  s.storage.sessionDir.getD (joinPath env.root "sessions")

/-- The directory of the lock registry. -/
def lockDir (s : Settings) (env : Environment) : String :=
  s.storage.lockDir.getD (joinPath env.root "locks")

/-- The path of the lock registry. -/
def lockDbPath (s : Settings) (env : Environment) : String :=
  joinPath (s.lockDir env) "locks.db"

end Settings

/-- How requests are authorized. -/
inductive Credentials where
  | anonymous
  | basic (username password : String)
  | bearer (token : String)
deriving Repr, DecidableEq, Inhabited

namespace Credentials

/-- The credentials of the environment. A token wins over a name and a password. -/
def load (env : Environment) : Except Failure Credentials :=
  match Environment.nonEmpty env.token, Environment.nonEmpty env.username,
    Environment.nonEmpty env.password with
  | some token, _, _ => .ok (.bearer token)
  | none, some username, some password => .ok (.basic username password)
  | _, _, _ => .error (.config
    "no credentials found in keychain or ADT_TOKEN / ADT_USERNAME + ADT_PASSWORD")

/-- Credentials as they may be shown: nothing secret is in the text. -/
def shown : Credentials → String
  | anonymous => "None"
  | basic username _ =>
    "Basic \x7b username: " ++ Text.quoted username ++ ", password: \"<redacted>\" \x7d"
  | bearer _ => "Bearer \x7b token: \"<redacted>\" \x7d"

end Credentials

end EditLock
