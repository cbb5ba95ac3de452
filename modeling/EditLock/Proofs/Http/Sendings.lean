/-
# What a request sends

In the course of a request up to four things are sent: the fetch of a token, the request, a second
fetch, and the request once more. What is sent next, if anything, follows from the last response and
the token that the session has by then (`Link.Leg.next?`). The course of a request tells what was
sent, leg by leg, each on the line that the one before it left; that every request goes through such
a course is proved from what it does (`Link.request_course`).

Key definitions: `Link.Leg`, `Link.Leg.next?`, `Link.Sending`, `Link.sending`, `Link.Course`.
Key theorems: `Link.sending_run`, `Link.course_of_send`, `Link.request_course`.
-/
import EditLock.Proofs.Http.Exchanges

namespace EditLock.Link

open Talk

variable {ρ : Type}

/-! ### Legs -/

/-- What may be sent in the course of a request. -/
inductive Leg where
  /-- The fetch of a token, where there is none. -/
  | fetch
  | request
  /-- The fetch of a token in place of one that was rejected. -/
  | refetch
  /-- The request once more. -/
  | retry
deriving Repr, DecidableEq, Inhabited

namespace Leg

/-- Whether a token is fetched. -/
def isFetch : Leg → Bool
  | fetch | refetch => true
  | request | retry => false

/-- What is sent for a request. -/
def sends (r : Request) (leg : Leg) : Request :=
  if leg.isFetch then fetchRequest else r

/-- What is sent next, if anything, after a response that left the session with this token. -/
def next? (r : Request) (response : Response) (token : Option String) : Leg → Option Leg
  | fetch => if response.isSuccess && token.isSome then some request else none
  | request => if asksForToken response && r.method.changes then some refetch else none
  | refetch => if response.isSuccess && token.isSome then some retry else none
  | retry => none

/-- What a request comes to if nothing is sent after this response. -/
def conclusion (response : Response) (leg : Leg) : Except Failure Response :=
  if leg.isFetch && response.isSuccess then
    .error (.rejected response.status "server did not return a CSRF token")
  else response.result

end Leg

/-- One of the things that are sent: the line over which it is sent, what goes over the wire, what
comes of it, and the line that is left. -/
structure Sending (ρ : Type) where
  leg : Leg
  before : Line (ρ × List WireExchange)
  /-- Missing if it cannot be sent. -/
  exchange? : Option WireExchange
  result : Except Failure Response
  after : Line (ρ × List WireExchange)

namespace Sending

/-- What is sent next, if anything. -/
def next? (r : Request) (s : Sending ρ) : Option Leg :=
  match s.result with
  | .ok response => s.leg.next? r response s.after.session.token
  | .error _ => none

/-- What a request comes to if nothing else is sent. -/
def conclusion (s : Sending ρ) : Except Failure Response :=
  match s.result with
  | .ok response => s.leg.conclusion response
  | .error e => .error e

/-- The request cannot go on: no answer was given out, or a token was fetched in vain. -/
def Stops (s : Sending ρ) : Prop :=
  match s.result with
  | .ok response =>
    s.leg.isFetch = true ∧ (response.isSuccess && s.after.session.token.isSome) = false
  | .error _ => True

end Sending

/-- What is sent for a request from a leg on, one thing after the other, and what comes of it all.
The way in which a leg is sent over a line is given. -/
inductive Course (send : Leg → Line (ρ × List WireExchange) → Sending ρ) (r : Request) :
    Leg → Line (ρ × List WireExchange) → List (Sending ρ) →
      Except Failure Response × Line (ρ × List WireExchange) → Prop
  | last {leg : Leg} {line : Line (ρ × List WireExchange)}
      (next : (send leg line).next? r = none) :
      Course send r leg line [send leg line] ((send leg line).conclusion, (send leg line).after)
  | onward {leg leg' : Leg} {line : Line (ρ × List WireExchange)} {sent : List (Sending ρ)}
      {out : Except Failure Response × Line (ρ × List WireExchange)}
      (next : (send leg line).next? r = some leg')
      (rest : Course send r leg' (send leg line).after sent out) :
      Course send r leg line (send leg line :: sent) out

section Courses

variable (link : Link) (server : Server ρ) (now : Instant) (mode : SessionMode) (disk : Disk ρ)
  (r : Request)

/-- A leg of a request is sent over a line. -/
def sending (leg : Leg) (line : Line (ρ × List WireExchange)) : Sending ρ :=
  let done := (link.send server.recorded now mode (leg.sends r) disk.beside).perform line
  { leg, before := line, exchange? := exchange? link server mode (leg.sends r) line
    result := done.1, after := done.2 }

/-- What comes of it is what comes of sending a request once. -/
theorem sending_run (leg : Leg) (line : Line (ρ × List WireExchange)) :
    SentRun link server mode (leg.sends r) line
      (sending link server now mode disk r leg line).exchange?
      ((sending link server now mode disk r leg line).result,
        (sending link server now mode disk r leg line).after) := by
  have hrun := sent_run link server now mode (leg.sends r) disk line
  unfold sending
  generalize (link.send server.recorded now mode (leg.sends r) disk.beside).perform line = done
    at hrun ⊢
  exact hrun

theorem exchange?_sending (leg : Leg) (line : Line (ρ × List WireExchange)) :
    (sending link server now mode disk r leg line).exchange? =
      exchange? link server mode (leg.sends r) line := by
  unfold sending
  rfl

/-- What is sent for a request from a leg on, over a line. -/
abbrev CourseOf (leg : Leg) (line : Line (ρ × List WireExchange)) (sent : List (Sending ρ))
    (out : Except Failure Response × Line (ρ × List WireExchange)) : Prop :=
  Course (sending link server now mode disk r) r leg line sent out

variable {r} in
/-- A leg whose response is dealt with as the leg says, by ending there or by a course of what is
sent next, begins a course. -/
theorem course_of_send {leg : Leg} {f : Response → Talk (ρ × List WireExchange) Response}
    (ends : ∀ response line', leg.next? r response line'.session.token = none →
      (f response).perform line' = (leg.conclusion response, line'))
    (goes : ∀ response line' leg', leg.next? r response line'.session.token = some leg' →
      ∃ sent, CourseOf link server now mode disk r leg' line' sent ((f response).perform line'))
    (line : Line (ρ × List WireExchange)) :
    ∃ sent, CourseOf link server now mode disk r leg line sent
      ((link.send server.recorded now mode (leg.sends r) disk.beside >>= f).perform line) := by
  generalize hs : sending link server now mode disk r leg line = s
  have hleg : s.leg = leg := by rw [← hs]; rfl
  have hdone : (link.send server.recorded now mode (leg.sends r) disk.beside).perform line =
      (s.result, s.after) := by
    rw [← hs]
    unfold sending
    exact Prod.mk.eta.symm
  rw [perform_bind, hdone]
  cases hresult : s.result with
  | error e =>
    have hnext : s.next? r = none := by rw [Sending.next?, hresult]
    have hconclusion : s.conclusion = .error e := by rw [Sending.conclusion, hresult]
    dsimp only
    rw [← hconclusion]
    subst hs
    exact ⟨_, .last hnext⟩
  | ok response =>
    have hsnext : s.next? r = leg.next? r response s.after.session.token := by
      rw [Sending.next?, hresult, hleg]
    cases hnext : leg.next? r response s.after.session.token with
    | none =>
      have hconclusion : s.conclusion = leg.conclusion response := by
        rw [Sending.conclusion, hresult, hleg]
      dsimp only
      rw [ends response s.after hnext, ← hconclusion]
      subst hs
      exact ⟨_, .last (hsnext.trans hnext)⟩
    | some leg' =>
      obtain ⟨sent, hrest⟩ := goes response s.after leg' hnext
      subst hs
      exact ⟨_, .onward (hsnext.trans hnext) hrest⟩

/-- What is done about the response to a fetch. -/
def fetched {ρ : Type} (response : Response) : Talk ρ Unit := do
  if response.isSuccess then
    if (← get).session.token.isNone then
      throw (.rejected response.status "server did not return a CSRF token")
  else throw response.rejection

theorem fetchToken_eq {ρ : Type} (server : Server ρ) (disk : Disk ρ) :
    link.fetchToken server now mode disk =
      link.send server now mode fetchRequest disk >>= fetched := rfl

/-- A fetch came through if it succeeded and left the session with a token. -/
theorem perform_fetched (response : Response) (line : Line ρ) :
    (fetched response).perform line =
      if response.isSuccess && line.session.token.isSome then (.ok (), line)
      else (if response.isSuccess then
          .error (.rejected response.status "server did not return a CSRF token")
        else .error response.rejection, line) := by
  unfold fetched
  cases hsuccess : response.isSuccess with
  | false => rfl
  | true =>
    simp only [if_true, Bool.true_and]
    rw [perform_bind, perform_get]
    dsimp only
    cases line.session.token <;> rfl

variable {r}

/-- A fetch begins the course of what it is followed by. -/
theorem course_of_fetch {leg leg' : Leg} (fetches : leg.isFetch = true)
    (next? : ∀ response token, leg.next? r response token =
      if response.isSuccess && token.isSome then some leg' else none)
    {next : Talk (ρ × List WireExchange) Response}
    (goes : ∀ line', ∃ sent,
      CourseOf link server now mode disk r leg' line' sent (next.perform line'))
    (line : Line (ρ × List WireExchange)) :
    ∃ sent, CourseOf link server now mode disk r leg line sent
      ((link.fetchToken server.recorded now mode disk.beside >>= fun _ => next).perform line) := by
  have hsends : leg.sends r = fetchRequest := if_pos fetches
  rw [fetchToken_eq, bind_assoc, ← hsends]
  refine course_of_send link server now mode disk (fun response line' hnone => ?_)
    (fun response line' next' hsome => ?_) line
  · rw [next?] at hnone
    have hvain : ¬ (response.isSuccess && line'.session.token.isSome) = true := by
      intro hyes
      rw [if_pos hyes] at hnone
      cases hnone
    rw [perform_bind, perform_fetched, if_neg hvain, Leg.conclusion, fetches, Bool.true_and,
      Response.result]
    cases response.isSuccess <;> rfl
  · rw [next?] at hsome
    by_cases hyes : (response.isSuccess && line'.session.token.isSome) = true
    · rw [if_pos hyes] at hsome
      cases hsome
      rw [perform_bind, perform_fetched, if_pos hyes]
      exact goes line'
    · rw [if_neg hyes] at hsome
      cases hsome

variable (r)

/-- The leg with which a request begins in a session. -/
def firstLeg (session : Session) : Leg :=
  if r.method.changes && session.token.isNone then .fetch else .request

/-- **Every request goes through a course**, and comes to what the course comes to. -/
theorem request_course (line : Line (ρ × List WireExchange)) :
    ∃ sent, CourseOf link server now mode disk r (firstLeg r line.session) line sent
      ((link.request server.recorded now mode r disk.beside).perform line) := by
  have hretry : ∀ line', ∃ sent, CourseOf link server now mode disk r .retry line' sent
      ((link.send server.recorded now mode r disk.beside >>= settled).perform line') :=
    course_of_send link server now mode disk
      (fun response line' _ => perform_settled response line') nofun
  have hrequest : ∀ line', ∃ sent, CourseOf link server now mode disk r .request line' sent
      ((do
        let response ← link.send server.recorded now mode r disk.beside
        if asksForToken response && r.method.changes then
          link.fetchToken server.recorded now mode disk.beside
          settled (← link.send server.recorded now mode r disk.beside)
        else settled response : Talk (ρ × List WireExchange) Response).perform line') := by
    refine course_of_send link server now mode disk (fun response line' hnone => ?_)
      fun response line' leg' hsome => ?_
    · have hkeeps : ¬ (asksForToken response && r.method.changes) = true := by
        intro hyes
        rw [Leg.next?, if_pos hyes] at hnone
        cases hnone
      rw [if_neg hkeeps, perform_settled]
      rfl
    · by_cases hyes : (asksForToken response && r.method.changes) = true
      · rw [Leg.next?, if_pos hyes] at hsome
        cases hsome
        rw [if_pos hyes]
        exact course_of_fetch link server now mode disk rfl (fun _ _ => rfl) hretry line'
      · rw [Leg.next?, if_neg hyes] at hsome
        cases hsome
  unfold request firstLeg
  rw [perform_bind, perform_get]
  dsimp only
  split_ifs
  · exact course_of_fetch link server now mode disk rfl (fun _ _ => rfl) hrequest line
  · exact hrequest line

end Courses

end EditLock.Link
