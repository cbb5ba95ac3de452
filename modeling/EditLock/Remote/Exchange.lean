/-
# Calls over a transport

A transport sends requests and tells how long each took. A call sends its request once; a read with
a budget sends it again every half second, while the object is not found or no answer comes and the
next request would still start within the budget. A time limit on the whole call cuts it off: the
requests sent until then were sent all the same.

Key definitions: `Transport`, `Poll`, `Poll.run`, `Transport.perform`, `Transport.collaborator`.
-/
import EditLock.Remote.Operation

namespace EditLock

/-- A way to send requests, on a state of its own. -/
structure Transport (τ : Type) where
  /-- The result of a request sent in a mode, and how many milliseconds it took. -/
  send : Request → SessionMode → τ → (Except Failure Response × Nat) × τ

/-- The milliseconds between the requests of a read that waits. -/
def pollInterval : Nat := 500

/-- Whether a time limit has passed. -/
def isPast (limit : Option Nat) (elapsed : Nat) : Bool :=
  match limit with
  | some limit => limit < elapsed
  | none => false

/-- What came back from a call, and when. -/
structure Timed (α : Type) where
  reply : Reply α
  /-- The milliseconds from the start of the call. -/
  elapsed : Nat

/-- A read that waits for an object to become visible. -/
structure Poll where
  request : Request
  mode : SessionMode
  /-- How long the read may wait, in milliseconds. -/
  budget : Nat
  /-- How long the call may take, in milliseconds. -/
  limit : Option Nat
  /-- The object as it is named in failures. -/
  object : String

namespace Poll

/-- Whether a failed read is worth another try. -/
def isTransient : Failure → Bool
  | .rejected status _ => status == 404
  | .network _ => true
  | _ => false

/-- The failure of a read whose budget is spent. -/
def exhausted (p : Poll) (e : Failure) : Failure :=
  .network (s!"{p.object} not visible after {p.budget / 1000}s: " ++ e.message)

/-- Reads from a time on, counted from the start of the call. -/
def run {τ : Type} (t : Transport τ) (p : Poll) (elapsed : Nat) (s : τ) : Timed Response × τ :=
  match t.send p.request p.mode s with
  | ((result, delay), s) =>
    let now := elapsed + delay
    if isPast p.limit now then (⟨.late, p.limit.getD now⟩, s)
    else match result with
      | .ok r => (⟨.answered r, now⟩, s)
      | .error e =>
        if !isTransient e then (⟨.failed e, now⟩, s)
        else if h : p.budget < now + pollInterval then (⟨.failed (p.exhausted e), now⟩, s)
        else if isPast p.limit (now + pollInterval) then (⟨.late, p.limit.getD now⟩, s)
        else
          have : p.budget - (elapsed + delay + pollInterval) < p.budget - elapsed := by
            simp only [now, pollInterval] at h ⊢
            omega
          run t p (elapsed + delay + pollInterval) s
termination_by p.budget - elapsed

end Poll

namespace Transport

variable {τ : Type}

/-- The reply that a result amounts to. -/
def replyOf {α : Type} : Except Failure α → Reply α
  | .ok a => .answered a
  | .error e => .failed e

/-- Sends one request, if it can be made, and reads the result. -/
def once (t : Transport τ) (c : Call) (r : Request) (mode : SessionMode) (limit : Option Nat)
    (s : τ) : Timed c.Answer × τ :=
  match t.send r mode s with
  | ((result, delay), s) =>
    if isPast limit delay then (⟨.late, limit.getD delay⟩, s)
    else (⟨replyOf (c.conclude result), delay⟩, s)

/-- Makes a call for an object. -/
def perform (t : Transport τ) (c : Call) (o : ObjectRef) (mode : SessionMode)
    (limit : Option Nat) (s : τ) : Timed c.Answer × τ :=
  match c.request o with
  | .error e => (⟨.failed e, 0⟩, s)
  | .ok r =>
    match c with
    | .read (some budget) =>
      Poll.run t { request := r, mode, budget, limit, object := o.toText } 0 s
    | c => t.once c r mode limit s

/-- The collaborator that makes its calls over a transport. -/
def collaborator (t : Transport τ) : Collaborator τ where
  reply c o mode limit s :=
    match t.perform c o mode limit s with
    | (timed, s) => (timed.reply, s)

end Transport

end EditLock
