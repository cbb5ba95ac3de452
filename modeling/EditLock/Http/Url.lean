/-
# Addresses

Absolute addresses of servers, read in the forgiving way of browsers: blanks and controls around the
text and tabs and line breaks inside it are dropped, a backslash counts as a slash where the scheme
is special, dot segments are resolved, and what may not stand in a place is encoded. What follows a
`#` is dropped.

Key definitions: `Url`, `Url.read?`, `Url.withPairs`, `Url.isWeb`, `Url.authority`, `Url.target`,
`Url.login?`.
-/
import EditLock.Http.Host

namespace EditLock

/-- An absolute address. -/
structure Url where
  /-- In lower case. -/
  scheme : String
  username : String := ""
  password : Option String := none
  host : Option String := none
  port : Option Nat := none
  /-- Encoded. It starts with a slash unless the address names neither host nor place. -/
  path : String := ""
  /-- Encoded. -/
  query : Option String := none
deriving Repr, DecidableEq, Inhabited

namespace Url

open Text

/-- The schemes whose addresses name servers, with the ports that they leave out. -/
def specialPorts : List (String × Nat) :=
  [("http", 80), ("https", 443), ("ws", 80), ("wss", 443), ("ftp", 21)]

/-- Whether a character stands for itself in every part of an address. -/
def isPlain (c : Char) : Bool :=
  0x20 < c.toNat && c.toNat < 0x7F && !(['"', '<', '>'].contains c)

/-- Whether a character stands for itself in a path. -/
def inPath (c : Char) : Bool :=
  isPlain c && !(['#', '?', '`', '\x7b', '\x7d'].contains c)

/-- Whether a character stands for itself in a query. -/
def inQuery (special : Bool) (c : Char) : Bool :=
  isPlain c && c ≠ '#' && !(special && c = '\'')

/-- The text without blanks and controls at its ends, and without tabs and line breaks. -/
def clean (s : String) : List Char :=
  let drop (cs : List Char) := cs.dropWhile fun c => c.toNat ≤ 0x20
  (drop (drop s.toList).reverse).reverse.filter fun c => c ≠ '\t' && c ≠ '\n' && c ≠ '\r'

/-- The scheme in front of the first colon, in lower case, and what follows. -/
def scheme? (cs : List Char) : Option (String × List Char) :=
  let inScheme := fun c : Char => c.isAlphanum || c = '+' || c = '-' || c = '.'
  match cs.takeWhile inScheme, cs.dropWhile inScheme with
  | c :: rest, ':' :: after =>
    if c.isAlpha then some (asciiLowerChars (c :: rest), after) else none
  | _, _ => none
where
  asciiLowerChars (cs : List Char) : String := String.ofList (cs.map Char.toLower)

/-- Whether a character separates the segments of a path. -/
def isSlash (special : Bool) (c : Char) : Bool :=
  c = '/' || (special && c = '\\')

/-- Whether a segment is a dot, of which each may be encoded. -/
def isDot (seg : List Char) : Bool :=
  ["." , "%2e"].contains (String.ofList (seg.map Char.toLower))

/-- Whether a segment is two dots. -/
def isDoubleDot (seg : List Char) : Bool :=
  ["..", "%2e.", ".%2e", "%2e%2e"].contains (String.ofList (seg.map Char.toLower))

/-- The segments of a path without dot segments. What was kept so far is in reverse. A dot segment
at the end leaves an empty one. -/
def resolve (kept : List (List Char)) : List (List Char) → List (List Char)
  | [] => kept.reverse
  | [seg] =>
    if isDoubleDot seg then ([] :: kept.tail).reverse
    else if isDot seg then ([] :: kept).reverse
    else (seg :: kept).reverse
  | seg :: rest =>
    if isDoubleDot seg then resolve kept.tail rest
    else if isDot seg then resolve kept rest
    else resolve (seg :: kept) rest

/-- The segments that slashes separate. -/
def segments (special : Bool) (cs : List Char) : List (List Char) :=
  Host.pieces '/' (cs.map fun c => if isSlash special c then '/' else c)

/-- The encoded path that a text writes. -/
def readPath (special : Bool) (cs : List Char) : String :=
  let cs := match cs with
    | c :: rest => if isSlash special c then rest else c :: rest
    | [] => []
  let segs := resolve [] ((segments special cs).map (percentEncode inPath))
  String.ofList (segs.flatMap fun seg => '/' :: seg)

/-- The port after a host. One that the scheme implies counts as left out. -/
def port? (scheme : String) (cs : List Char) : Option (Option Nat) :=
  match cs with
  | [] => some none
  | ':' :: ds =>
    let n := ds.foldl (fun n d => n * 10 + (d.toNat - '0'.toNat)) 0
    if !ds.all Char.isDigit || 65535 < n then none
    else if ds.isEmpty || specialPorts.lookup scheme = some n then some none
    else some (some n)
  | _ => none

/-- The host and what follows it: a colon ends the host unless it stands in brackets. -/
def splitHost : Bool → List Char → List Char × List Char
  | _, [] => ([], [])
  | bracketed, c :: rest =>
    if c = ':' && !bracketed then ([], c :: rest)
    else
      let (host, after) := splitHost (c = '[' || (bracketed && c ≠ ']')) rest
      (c :: host, after)

/-- What stands before the last `@`, if there is one, and what stands after it. -/
def splitLogin (cs : List Char) : Option (List Char) × List Char :=
  let after := (cs.reverse.takeWhile (· ≠ '@')).reverse
  if cs.contains '@' then (some (cs.take (cs.length - after.length - 1)), after) else (none, cs)

/-- The user's name and password that stand before a host. -/
def readLogin (cs : List Char) : String × Option String :=
  let password := (cs.dropWhile (· ≠ ':')).drop 1
  (String.ofList (cs.takeWhile (· ≠ ':')),
   if password.isEmpty then none else some (String.ofList password))

/-- The address without its path that the part between the slashes writes. -/
def authority? (special : Bool) (scheme : String) (cs : List Char) : Option Url := do
  let (login, rest) := splitLogin cs
  let (host, rest) := splitHost false rest
  let port ← port? scheme rest
  let (username, password) := readLogin (login.getD [])
  if host.isEmpty then
    if special || login.isSome || port.isSome || !rest.isEmpty then none else some { scheme }
  else if Host.isValid special host then
    some { scheme, username, password, host := some (String.ofList host), port }
  else none

/-- Adds path and query to an address. -/
def withRest (special : Bool) (u : Url) (cs : List Char) : Url :=
  let inPathText := fun c : Char => c ≠ '?' && c ≠ '#'
  let query := match cs.dropWhile inPathText with
    | '?' :: rest =>
      some (String.ofList (percentEncode (inQuery special) (rest.takeWhile (· ≠ '#'))))
    | _ => none
  { u with path := readPath special (cs.takeWhile inPathText), query }

/-- The address of a file: it has a host only if one other than this machine is named. -/
def file (cs : List Char) : Option Url :=
  let plain : Url := { scheme := "file" }
  match cs with
  | a :: b :: rest =>
    if isSlash true a && isSlash true b then
      let inHost := fun c : Char => !isSlash true c && c ≠ '?' && c ≠ '#'
      let host := rest.takeWhile inHost
      let isDrive := match host with
        | [c, d] => c.isAlpha && (d = ':' || d = '|')
        | _ => false
      if host.isEmpty || isDrive then some (withRest true plain rest)
      else if !Host.isValid true host then none
      else if String.ofList (host.map Char.toLower) = "localhost" then
        some (withRest true plain (rest.dropWhile inHost))
      else
        some (withRest true { plain with host := some (String.ofList host) }
          (rest.dropWhile inHost))
    else some (withRest true plain cs)
  | cs => some (withRest true plain cs)

/-- The address that a text writes; nothing if the text has no scheme or names no possible
server. -/
def read? (s : String) : Option Url := do
  let (scheme, rest) ← scheme? (clean s)
  let special := (specialPorts.lookup scheme).isSome
  let inAuthority := fun c : Char => !isSlash special c && c ≠ '?' && c ≠ '#'
  if scheme = "file" then file rest
  else if special then
    let rest := rest.dropWhile (isSlash true)
    let u ← authority? true scheme (rest.takeWhile inAuthority)
    some (withRest true u (rest.dropWhile inAuthority))
  else match rest with
    | '/' :: '/' :: rest => do
      let u ← authority? false scheme (rest.takeWhile inAuthority)
      some (withRest false u (rest.dropWhile inAuthority))
    | '/' :: rest => some (withRest false { scheme } ('/' :: rest))
    | rest =>
      let u := withRest false { scheme } ('/' :: rest)
      some { u with path := String.ofList (u.path.toList.drop 1) }

/-- The address with parameters added to its query. An empty query is none. -/
def withPairs (u : Url) (pairs : List (String × String)) : Url :=
  let start := (u.query.getD "").toList
  let query := pairs.foldl (fun (q : List Char) p =>
    (if q.isEmpty then q else q ++ ['&']) ++ formPair p) start
  { u with query := if query.isEmpty then none else some (String.ofList query) }

/-- Whether requests can be sent to the address. -/
def isWeb (u : Url) : Bool :=
  u.scheme = "http" || u.scheme = "https"

/-- The host as the address writes it, and the port unless the scheme implies it. -/
def authority (u : Url) : String :=
  u.host.getD "" ++ ((u.port.map fun n => ":" ++ toString n).getD "")

/-- What a request asks the server for. -/
def target (u : Url) : String :=
  match u.query with
  | some q => u.path ++ "?" ++ q
  | none => u.path

/-- A text without its percent encoding; nothing if that is no text. -/
def decoded? (s : String) : Option String :=
  String.fromUTF8? (ByteArray.mk (percentDecode s.toList).toArray)

/-- The name and the password that the address carries. -/
def login? (u : Url) : Option (String × String) := do
  if u.username.isEmpty && u.password.isNone then none
  else
    let username ← decoded? u.username
    let password := u.password.bind decoded?
    if username.isEmpty && password.isNone then none else some (username, password.getD "")

end Url

end EditLock
