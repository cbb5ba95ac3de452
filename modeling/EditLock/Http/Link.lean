/-
# The link to the server

A link sends the requests of one session: it adds what every request carries, fetches the token
that requests which change something need, and fetches it anew if the server asks for that. Cookies
and tokens that come back are merged into the session, and the session is stored before the
response is given out.

Key definitions: `Link`, `Link.ofSettings`, `Line`, `Disk`, `Link.send`, `Link.request`,
`Link.reset`, `Link.transport`.
-/
import EditLock.Http.Url
import EditLock.Http.Wire
import EditLock.Remote.Exchange
import EditLock.Session.Store
import EditLock.Settings.Environment

namespace EditLock

/-- Where requests go and what they all carry. -/
structure Link where
  /-- The address of the server, without slashes at its end. -/
  baseUrl : String
  client : Option String := none
  language : Option String := none
  credentials : Credentials := .anonymous
deriving Repr, DecidableEq, Inhabited

/-- The session of a link, the place where it is stored, and the server. -/
structure Line (ρ : Type) where
  session : Session
  store : SessionStore
  server : ρ

/-- The disk of the store, on a state that it shares with the server: what the next write meets. -/
structure Disk (ρ : Type) where
  write : ρ → Option WriteFault × ρ

/-- A disk that is never at fault. -/
def Disk.sound {ρ : Type} : Disk ρ :=
  ⟨fun s => (none, s)⟩

/-- What a link does: it may fail, and keeps its changes if it does. -/
abbrev Talk (ρ α : Type) := ExceptT Failure (StateM (Line ρ)) α

namespace Talk

variable {ρ α : Type}

/-- Performs a talk over a line. -/
def perform (talk : Talk ρ α) (line : Line ρ) : Except Failure α × Line ρ :=
  talk.run.run line

/-- Ends as an outcome says. -/
def ofExcept : Except Failure α → Talk ρ α
  | .ok a => pure a
  | .error e => throw e

end Talk

namespace Link

variable {ρ : Type}

/-- The header that says how a request is routed. -/
def modeHeader : String := "x-sap-adt-sessiontype"

/-- The header of the token. -/
def tokenHeader : String := "x-csrf-token"

/-- The request that fetches a token. -/
def fetchRequest : Request :=
  { method := .get, path := "/sap/bc/adt/discovery", headers := [(tokenHeader, "fetch")] }

/-- The text without slashes at its end. -/
def trimSlashes (s : String) : String :=
  String.ofList (s.toList.reverse.dropWhile (· = '/')).reverse

/-- The link that the settings describe, with credentials. -/
def ofSettings (s : Settings) (credentials : Credentials) : Except Failure Link :=
  s.requireBaseUrl.map fun url =>
    { baseUrl := trimSlashes url, client := s.client, language := s.language, credentials }

/-- The address of a request. -/
def url (link : Link) (r : Request) : Except Failure Url :=
  match Url.read? (link.baseUrl ++ r.path) with
  | none => .error (.config "invalid request url: <url>")
  | some u => .ok (u.withPairs (r.query ++ (link.client.map fun c => ("sap-client", c)).toList))

/-- The value of the header that authorizes a user. -/
def basicValue (username password : String) : String :=
  "Basic " ++ String.ofList (Text.base64 (Text.utf8Bytes (username ++ ":" ++ password).toList))

/-- The header with which credentials authorize a request. -/
def credentialHeaders : Credentials → List (String × String)
  | .anonymous => []
  | .basic username password => [("authorization", basicValue username password)]
  | .bearer token => [("authorization", "Bearer " ++ token)]

/-- The headers that a session adds to a request. -/
def sessionHeaders (s : Session) (m : Method) : List (String × String) :=
  (if s.cookies.isEmpty then [] else [("cookie", s.cookies)]) ++
    (if m.changes then (s.token.map fun t => (tokenHeader, t)).toList else [])

/-- All headers of a request. -/
def headers (link : Link) (u : Url) (mode : SessionMode) (s : Session) (r : Request) :
    List (String × String) :=
  (u.login?.map fun l => ("authorization", basicValue l.1 l.2)).toList ++
    [(modeHeader, mode.name)] ++
    (link.language.map fun l => ("accept-language", l)).toList ++
    credentialHeaders link.credentials ++ sessionHeaders s r.method ++ r.headers

/-- The failure of a request that got no answer. -/
def unanswered (r : Request) : Failure :=
  .network (r.label ++ ": <http>")

/-- What is sent for a request, if it can be sent at all. -/
def wireRequest (link : Link) (mode : SessionMode) (s : Session) (r : Request) :
    Except Failure WireRequest := do
  let u ← link.url r
  let headers := link.headers u mode s r
  if !u.isWeb || !headers.all fun h => isHeaderName h.1 && isHeaderValue h.2 then
    throw (unanswered r)
  else
    return { secure := u.scheme = "https", host := u.authority
             method := r.method, target := u.target
             headers := headers.map fun h => (Text.asciiLower h.1, trimValue h.2)
             body := r.body.getD "" }

/-- The headers of an answer that can be read. -/
def readHeaders (headers : List (String × String)) : List (String × String) :=
  (headers.map fun h => (Text.asciiLower h.1, trimValue h.2)).filter fun h => isReadableValue h.2

/-- The session after one more cookie, and whether it has changed by now. -/
def withCookie (before : Session × Bool) (header : String) : Session × Bool :=
  let (s, changed) := before.1.mergeSetCookie header
  (s, before.2 || changed)

/-- The session after the cookies and the token of an answer, and whether it changed. -/
def absorbed (s : Session) (cookies : List String) (token : Option String) : Session × Bool :=
  let (s, changed) := cookies.foldl withCookie (s, false)
  match token with
  | none => (s, changed)
  | some token =>
    if ["required", "fetch"].contains (Text.asciiLower token) then (s, changed)
    else
      let (s, replaced) := s.setToken (some token)
      (s, changed || replaced)

/-- Puts a session in place of the one of the line and stores it. -/
def keep (session : Session) (disk : Disk ρ) : Talk ρ Unit := do
  let line ← get
  let (fault, server) := disk.write line.server
  let (result, store) := line.store.saveWith fault session
  set { line with session, store, server }
  Talk.ofExcept result

/-- Takes over the cookies and the token of an answer and stores the session if it changed. -/
def absorb (now : Instant) (cookies : List String) (token : Option String) (disk : Disk ρ) :
    Talk ρ Unit := do
  let (session, changed) := absorbed (← get).session cookies token
  if changed then keep { session with updatedAt := now } disk

/-- Hands a request to the server and takes its reply. -/
def exchange (server : Server ρ) (wire : WireRequest) : Talk ρ WireReply := do
  let line ← get
  let (reply, state) := server.respond wire line.server
  set { line with server := state }
  return reply

/-- Sends one request and gives the response whatever its status. -/
def send (link : Link) (server : Server ρ) (now : Instant) (mode : SessionMode) (r : Request)
    (disk : Disk ρ) : Talk ρ Response := do
  let wire ← Talk.ofExcept (link.wireRequest mode (← get).session r)
  match ← exchange server wire with
  | .silence => throw (unanswered r)
  | .answer status headers body complete =>
    if statusHasBody status && !complete then
      throw (.network (r.label ++ ": failed to read body"))
    else
      let headers := readHeaders headers
      let map := NameMap.ofList headers
      absorb now ((headers.filter fun h => h.1 = "set-cookie").map Prod.snd)
        (map.get? tokenHeader) disk
      return { status, headers := map
               data := if statusHasBody status then Text.decodeLossy body else "" }

/-- Fetches a token. -/
def fetchToken (link : Link) (server : Server ρ) (now : Instant) (mode : SessionMode)
    (disk : Disk ρ) : Talk ρ Unit := do
  let response ← link.send server now mode fetchRequest disk
  if response.isSuccess then
    if (← get).session.token.isNone then
      throw (.rejected response.status "server did not return a CSRF token")
  else throw response.rejection

/-- Whether a response asks for a new token. -/
def asksForToken (r : Response) : Bool :=
  r.status == 403 && (r.header? tokenHeader).any fun v => Text.asciiLower v == "required"

/-- A response that is no success is a failure. -/
def settled (r : Response) : Talk ρ Response :=
  if r.isSuccess then pure r else throw r.rejection

/-- Makes a request. One that changes something is preceded by fetching a token if there is none,
and is made again with a new token if the server asks for it. -/
def request (link : Link) (server : Server ρ) (now : Instant) (mode : SessionMode) (r : Request)
    (disk : Disk ρ := .sound) : Talk ρ Response := do
  if r.method.changes && (← get).session.token.isNone then
    link.fetchToken server now mode disk
  let response ← link.send server now mode r disk
  if asksForToken response && r.method.changes then
    link.fetchToken server now mode disk
    settled (← link.send server now mode r disk)
  else settled response

/-- Forgets cookies and token and stores the session without them. -/
def reset (now : Instant) (disk : Disk ρ := .sound) : Talk ρ Unit := do
  keep { (← get).session.clearCredentials with updatedAt := now } disk

/-- The link as a transport. A request takes as long as its exchanges take the server. -/
def transport (link : Link) (server : Server ρ) (now : Instant) (disk : Disk ρ := .sound) :
    Transport (Line ρ) where
  send r mode line :=
    match (link.request server now mode r disk).perform line with
    | (result, after) =>
      ((result, server.clock after.server - server.clock line.server), after)

end Link

end EditLock
