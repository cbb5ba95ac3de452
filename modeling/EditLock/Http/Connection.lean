/-
# Connections

A link in use: the line of one session and how its requests are routed at the moment. A connection
makes requests, switches the routing, and is reset, which also ends the routing to one process.

Key definitions: `Connection`, `Connection.Act`, `Connection.perform`.
-/
import EditLock.Http.Link

namespace EditLock

/-- The line of a session and how requests are routed. -/
structure Connection (ρ : Type) where
  line : Line ρ
  mode : SessionMode := .stateless

namespace Connection

/-- What is asked of a connection, with the time at which it is asked. -/
inductive Act where
  | request (now : Instant) (r : Request)
  | reset (now : Instant)
  | route (mode : SessionMode)
deriving Repr, DecidableEq, Inhabited

variable {ρ : Type}

/-- Does what is asked of a connection; what a request gives is its response. -/
def perform (link : Link) (server : Server ρ) (disk : Disk ρ) :
    Act → Connection ρ → Except Failure (Option Response) × Connection ρ
  | .request now r, c =>
    match (link.request server now c.mode r disk).perform c.line with
    | (result, line) => (result.map some, { c with line })
  | .reset now, c =>
    match (Link.reset now disk).perform c.line with
    | (result, line) => (result.map fun _ => none, { line, mode := .stateless })
  | .route mode, c => (.ok none, { c with mode })

end Connection

end EditLock
