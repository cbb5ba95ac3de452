/-
# A token in place of one that was rejected

What follows a request that was rejected for its token. Another token is fetched, over the line that
the rejection left, and that line still has the rejected token. If the fetch succeeds and delivers a
token, the request goes out once more with that one; if it fails, the request comes to its failure
and is not sent again. A fetch that succeeds without delivering a token is no failure, though: it
is judged by the token of the session, which is the rejected one, and so this is sent once more.

Key definitions: `Link.Sending.bringsNothing`, `Link.Renews`, `Link.AfterRejection`.
Key theorems: `Link.token_of_sending`, `Link.Course.fromWithin`, `Link.Course.ofRefetch`,
`Link.renews_iff`.
-/
import EditLock.Proofs.Http.Attempts

namespace EditLock.Link

variable {ρ : Type}

/-! ### Tokens that a sending leaves -/

/-- Where a token is asked for, none is delivered. -/
theorem delivered?_of_asksForToken {response : Response} (h : asksForToken response = true) :
    delivered? response = none := by
  unfold asksForToken at h
  unfold delivered?
  have hrequired := (Bool.and_eq_true_iff.1 h).2
  cases hvalue : response.header? tokenHeader with
  | none => rfl
  | some value =>
    rw [hvalue, Option.any_some, beq_iff_eq] at hrequired
    have hword : isToken value = false := by
      rw [isToken, hrequired]
      decide
    rw [Option.filter_some, hword]
    rfl

namespace Sending

variable {r : Request} {s : Sending ρ}

/-- The answer that a rejected request got. -/
theorem answer_of_isRejected (h : s.isRejected = true) :
    s.leg = .request ∧ ∃ response, s.result = .ok response ∧ asksForToken response = true := by
  unfold isRejected at h
  obtain ⟨hleg, hasks⟩ := Bool.and_eq_true_iff.1 h
  cases hresult : s.result with
  | error e =>
    rw [hresult] at hasks
    cases hasks
  | ok response =>
    rw [hresult] at hasks
    exact ⟨eq_of_beq hleg, response, rfl, hasks⟩

/-- A rejected request that changes something is followed by a fetch. -/
theorem next_of_isRejected (h : s.isRejected = true) (changes : r.method.changes = true) :
    s.next? r = some .refetch := by
  obtain ⟨hleg, response, hresult, hasks⟩ := answer_of_isRejected h
  unfold next?
  rw [hresult, hleg]
  exact if_pos (by rw [hasks, changes]; rfl)

theorem LeadsOn.leg_ne_retry {leg' : Leg} (h : s.LeadsOn r leg') : s.leg ≠ .retry := by
  cases h with
  | fetched leg | rejected leg | refetched leg =>
    rw [leg]
    decide

theorem LeadsOn.retry_of_refetch {leg' : Leg} (h : s.LeadsOn r leg') (hleg : s.leg = .refetch) :
    leg' = .retry := by
  cases h with
  | fetched leg | rejected leg =>
    rw [leg] at hleg
    cases hleg
  | refetched => rfl

/-- It succeeded, and no token came of it. -/
def bringsNothing (s : Sending ρ) : Bool :=
  match s.result with
  | .ok response => response.isSuccess && (delivered? response).isNone
  | .error _ => false

theorem bringsNothing_of_result {response : Response} (h : s.result = .ok response) :
    s.bringsNothing = (response.isSuccess && (delivered? response).isNone) := by
  unfold bringsNothing
  rw [h]

end Sending

/-! ### The rest of a course -/

theorem Course.starts {send : Leg → Line (ρ × List WireExchange) → Sending ρ} {r : Request}
    {leg : Leg} {line : Line (ρ × List WireExchange)} {sent : List (Sending ρ)}
    {out : Except Failure Response × Line (ρ × List WireExchange)}
    (h : Course send r leg line sent out) : ∃ rest, sent = send leg line :: rest := by
  cases h <;> exact ⟨_, rfl⟩

/-- From each thing that is sent in it, a course is one from there. -/
theorem Course.fromWithin {send : Leg → Line (ρ × List WireExchange) → Sending ρ}
    (legs : ∀ leg line, (send leg line).leg = leg)
    (lines : ∀ leg line, (send leg line).before = line) {r : Request} {leg : Leg}
    {line : Line (ρ × List WireExchange)} {first rest : List (Sending ρ)} {s : Sending ρ}
    {out : Except Failure Response × Line (ρ × List WireExchange)}
    (h : Course send r leg line (first ++ s :: rest) out) :
    Course send r s.leg s.before (s :: rest) out := by
  induction first generalizing leg line with
  | nil =>
    have hhead : s.leg = leg ∧ s.before = line := by
      cases h <;> exact ⟨legs leg line, lines leg line⟩
    rw [hhead.1, hhead.2]
    exact h
  | cons s' first ih =>
    rw [List.cons_append] at h
    generalize hafter : first ++ s :: rest = sent at h
    cases h with
    | last => simp at hafter
    | onward _ rest =>
      subst hafter
      exact ih rest

section Courses

variable {link : Link} {server : Server ρ} {now : Instant} {mode : SessionMode} {disk : Disk ρ}
  {r : Request} {leg : Leg} {line : Line (ρ × List WireExchange)} {sent : List (Sending ρ)}
  {out : Except Failure Response × Line (ρ × List WireExchange)}

/-- The token that an answer delivers is that of the session from then on. If it delivers none, the
session keeps its own. -/
theorem token_of_sending {response : Response}
    (h : (sending link server now mode disk r leg line).result = .ok response) :
    (sending link server now mode disk r leg line).after.session.token =
      (delivered? response).or line.session.token := by
  have hrun := sending_run link server now mode disk r leg line
  generalize sending link server now mode disk r leg line = s at h hrun ⊢
  obtain ⟨leg, before, x, result, after⟩ := s
  cases h
  cases hrun with
  | answered _ _ _ _ token => exact token

/-- After a rejection a course goes on with a fetch. -/
theorem Course.ofRejected {s : Sending ρ} {rest : List (Sending ρ)}
    (h : CourseOf link server now mode disk r leg line (s :: rest) out)
    (rejected : s.isRejected = true) (changes : r.method.changes = true) :
    CourseOf link server now mode disk r .refetch s.after rest out := by
  have hnext := Sending.next_of_isRejected rejected changes
  cases h with
  | last next =>
    rw [next] at hnext
    cases hnext
  | onward next rest =>
    rw [next] at hnext
    cases hnext
    exact rest

/-- Such a course ends with the fetch, or with the request that is sent once more. -/
theorem Course.ofRefetch (h : CourseOf link server now mode disk r .refetch line sent out) :
    ∃ s, s = sending link server now mode disk r .refetch line ∧
      ((s.next? r = none ∧ sent = [s] ∧ out = (s.conclusion, s.after)) ∨
        ∃ s', s.LeadsOn r .retry ∧ s' = sending link server now mode disk r .retry s.after ∧
          sent = [s, s'] ∧ out = (s'.conclusion, s'.after)) := by
  generalize hleg : Leg.refetch = leg at h ⊢
  cases h with
  | last next => exact ⟨_, rfl, .inl ⟨next, rfl, rfl⟩⟩
  | @onward _ leg' _ _ _ next rest =>
    have hleads := Sending.leadsOn next
    obtain rfl : leg' = .retry := hleads.retry_of_refetch hleg.symm
    refine ⟨_, rfl, .inr ?_⟩
    generalize (sending link server now mode disk r leg line).after = line' at rest
    generalize hretry : Leg.retry = last at rest
    cases rest with
    | last => exact ⟨_, hretry ▸ hleads, rfl, rfl, rfl⟩
    | onward next' => exact absurd hretry.symm (Sending.leadsOn next').leg_ne_retry

/-- What the answers deliver is what the session has. -/
theorem Course.delivered (h : CourseOf link server now mode disk r leg line sent out) :
    ∀ s ∈ sent, ∀ response, s.result = .ok response →
      s.after.session.token = (delivered? response).or s.before.session.token := by
  induction h with
  | last => exact fun s hs response => by rw [List.mem_singleton.1 hs]; exact token_of_sending
  | onward _ _ ih => exact List.forall_mem_cons.2 ⟨fun response => token_of_sending, ih⟩

end Courses

/-! ### What becomes of the rejected token -/

/-- After a fetch the request is sent once more only with the token that the fetch delivered. If it
was answered without one, the request comes to a rejection and nothing else is sent. -/
structure Renews (r : Request) (fetch : Sending ρ) (resent : List (Sending ρ))
    (out : Except Failure Response × Line (ρ × List WireExchange)) : Prop where
  delivered : ∀ s ∈ resent, ∃ response token, fetch.result = .ok response ∧
    response.isSuccess = true ∧ delivered? response = some token ∧
    s.before.session.token = some token ∧
    ∀ x, s.exchange? = some x → x.request.tokens = trimValue token :: tokensIn r.headers
  reported : ∀ response, fetch.result = .ok response →
    (response.isSuccess = true → delivered? response = none) →
    resent = [] ∧ out.1 = .error (.rejected response.status
      (if response.isSuccess then "server did not return a CSRF token" else response.data))

/-- The request is sent once more with the token that was rejected, and that is what it comes to. -/
structure SentAgain (rejected resent : Sending ρ)
    (out : Except Failure Response × Line (ρ × List WireExchange)) : Prop where
  out : out = (resent.conclusion, resent.after)
  token : resent.before.session.token = rejected.before.session.token
  tokens : ∀ x x', rejected.exchange? = some x → resent.exchange? = some x' →
    x'.request.tokens = x.request.tokens

/-- What follows a rejected request that changes something: a fetch, and the request once more or
nothing else. -/
structure AfterRejection (r : Request) (rejected fetch : Sending ρ) (resent : List (Sending ρ))
    (out : Except Failure Response × Line (ρ × List WireExchange)) : Prop where
  follows : fetch.leg = .refetch ∧ fetch.before = rejected.after
  retry : ∀ s ∈ resent, s.leg = .retry
  renews : Renews r fetch resent out ↔ fetch.bringsNothing = false
  stale : fetch.bringsNothing = true → ∃ s, resent = [s] ∧ SentAgain rejected s out

section Rejections

variable {link : Link} {server : Server ρ} {mode : SessionMode} {r : Request}
  {fetch resent : Sending ρ} {stale : String}

/-- Where the session has a token already, only a fetch that failed is the end. -/
theorem renews_of_end (leg : fetch.leg = .refetch)
    (token : ∀ response, fetch.result = .ok response →
      fetch.after.session.token = (delivered? response).or (some stale))
    (next : fetch.next? r = none) :
    fetch.bringsNothing = false ∧ Renews r fetch [] (fetch.conclusion, fetch.after) := by
  cases hresult : fetch.result with
  | error e =>
    refine ⟨?_, List.forall_mem_nil _, fun response hother _ => ?_⟩
    · unfold Sending.bringsNothing
      rw [hresult]
    · rw [hresult] at hother
      cases hother
  | ok response =>
    have hsome : fetch.after.session.token.isSome = true := by
      rw [token response hresult]
      cases delivered? response <;> rfl
    have hfails : response.isSuccess = false := by
      unfold Sending.next? at next
      rw [hresult, leg] at next
      simpa [Leg.next?, hsome] using next
    refine ⟨?_, List.forall_mem_nil _, fun response' hother _ => ⟨rfl, ?_⟩⟩
    · rw [Sending.bringsNothing_of_result hresult, hfails, Bool.false_and]
    · obtain rfl : response = response' := Except.ok.inj (hresult.symm.trans hother)
      unfold Sending.conclusion
      rw [hresult, leg]
      simp [Leg.conclusion, Response.result, Response.rejection, hfails]

/-- What is sent once more has the token that the fetch delivered, or else the one there was. -/
theorem renews_of_retry (changes : r.method.changes = true)
    (token : ∀ response, fetch.result = .ok response →
      fetch.after.session.token = (delivered? response).or (some stale))
    (leads : fetch.LeadsOn r .retry) (faithful : resent.IsFaithful link server mode r)
    (leg : resent.leg = .retry) (before : resent.before = fetch.after)
    (out : Except Failure Response × Line (ρ × List WireExchange)) :
    (fetch.bringsNothing = false ∧ Renews r fetch [resent] out) ∨
      (fetch.bringsNothing = true ∧ ¬ Renews r fetch [resent] out ∧
        resent.before.session.token = some stale) := by
  cases leads with
  | @refetched response _ result success =>
    have hbrings : fetch.bringsNothing = (delivered? response).isNone := by
      rw [Sending.bringsNothing_of_result result, success, Bool.true_and]
    have hbefore : resent.before.session.token = (delivered? response).or (some stale) := by
      rw [before]
      exact token response result
    cases hdelivered : delivered? response with
    | none =>
      rw [hdelivered] at hbrings hbefore
      refine .inr ⟨hbrings, fun hrenews => ?_, hbefore⟩
      have hnothing := (hrenews.reported response result fun _ => hdelivered).1
      cases hnothing
    | some fresh =>
      rw [hdelivered] at hbrings hbefore
      refine .inl ⟨hbrings, ?_, fun response' hother hnone => ?_⟩
      · refine List.forall_mem_singleton.2
          ⟨response, fresh, result, success, hdelivered, hbefore, fun x hx => ?_⟩
        rw [faithful.tokens x hx, leg, changes, hbefore]
        rfl
      · obtain rfl : response = response' := Except.ok.inj (result.symm.trans hother)
        cases hdelivered.symm.trans (hnone success)

variable {now : Instant} {disk : Disk ρ} {leg : Leg} {line : Line (ρ × List WireExchange)}
  {rest : List (Sending ρ)} {s : Sending ρ}
  {out : Except Failure Response × Line (ρ × List WireExchange)}

theorem Course.afterRejection (h : CourseOf link server now mode disk r leg line (s :: rest) out)
    (token : s.before.session.token.isSome = true) (rejected : s.isRejected = true)
    (changes : r.method.changes = true) :
    ∃ fetch resent, rest = fetch :: resent ∧ AfterRejection r s fetch resent out := by
  obtain ⟨stale, hstale⟩ := Option.isSome_iff_exists.1 token
  obtain ⟨hleg, answer, hanswer, hasks⟩ := Sending.answer_of_isRejected rejected
  have hkept : s.after.session.token = some stale := by
    rw [h.delivered s (List.mem_cons_self ..) answer hanswer, delivered?_of_asksForToken hasks,
      hstale]
    rfl
  have hfaithful := h.faithful
  have hrest := h.ofRejected rejected changes
  obtain ⟨fetch, hfetch, hends⟩ := hrest.ofRefetch
  have hfollows : fetch.leg = .refetch ∧ fetch.before = s.after := by
    rw [hfetch]
    exact ⟨rfl, rfl⟩
  have hthen : ∀ response, fetch.result = .ok response →
      fetch.after.session.token = (delivered? response).or (some stale) := by
    intro response hresult
    rw [hfetch] at hresult ⊢
    rw [token_of_sending hresult, hkept]
  obtain ⟨hnext, rfl, rfl⟩ | ⟨resent, hleads, hresent, rfl, rfl⟩ := hends
  · obtain ⟨hbrings, hrenews⟩ := renews_of_end hfollows.1 hthen hnext
    exact ⟨fetch, [], rfl, hfollows, List.forall_mem_nil _, iff_of_true hrenews hbrings,
      fun h => by rw [hbrings] at h; cases h⟩
  · have hagain : resent.leg = .retry ∧ resent.before = fetch.after := by
      rw [hresent]
      exact ⟨rfl, rfl⟩
    have hsent := hfaithful resent (by simp)
    have hretry : ∀ s ∈ [resent], s.leg = .retry := List.forall_mem_singleton.2 hagain.1
    refine ⟨fetch, [resent], rfl, ?_⟩
    obtain ⟨hbrings, hrenews⟩ | ⟨hbrings, hrenews, hsame⟩ :=
      renews_of_retry changes hthen hleads hsent hagain.1 hagain.2 (resent.conclusion, resent.after)
    · exact ⟨hfollows, hretry, iff_of_true hrenews hbrings, fun h => by rw [hbrings] at h; cases h⟩
    · have htokens : ∀ x x', s.exchange? = some x → resent.exchange? = some x' →
          x'.request.tokens = x.request.tokens := by
        intro x x' hx hx'
        rw [hsent.tokens x' hx', (hfaithful s (List.mem_cons_self ..)).tokens x hx, hagain.1, hleg,
          hsame, hstale]
        rfl
      exact ⟨hfollows, hretry, iff_of_false hrenews (by rw [hbrings]; decide),
        fun _ => ⟨resent, rfl, rfl, hsame.trans hstale.symm, htokens⟩⟩

/-- **A rejected token is given up iff the fetch brings another or fails.** Whenever a request that
changes something is rejected for its token, another is fetched; the request is sent once more only
with the one that was delivered, and it comes to a rejection if none was, unless the fetch succeeded
without one. Then the rejected token is sent once more. -/
theorem renews_iff (link : Link) (server : Server ρ) (now : Instant) (mode : SessionMode)
    (disk : Disk ρ) (r : Request) (changes : r.method.changes = true)
    (line : Line (ρ × List WireExchange)) :
    ∃ sent, CourseOf link server now mode disk r (firstLeg r line.session) line sent
        ((link.request server.recorded now mode r disk.beside).perform line) ∧
      ((link.request server.recorded now mode r disk.beside).perform line).2.exchanges =
        line.exchanges ++ sent.filterMap Sending.exchange? ∧
      (∀ s ∈ sent, s.IsFaithful link server mode r) ∧
      ∀ first s rest, sent = first ++ s :: rest → s.isRejected = true →
        ∃ fetch resent, rest = fetch :: resent ∧ AfterRejection r s fetch resent
          ((link.request server.recorded now mode r disk.beside).perform line) := by
  obtain ⟨sent, hcourse⟩ := request_course link server now mode disk r line
  refine ⟨sent, hcourse, hcourse.exchanges, hcourse.faithful, ?_⟩
  rintro first s rest rfl rejected
  have htoken : s.before.session.token.isSome = true := by
    have hsent := hcourse.token (start_firstLeg changes line.session) s (by simp)
    rw [(Sending.answer_of_isRejected rejected).1] at hsent
    exact hsent.resolve_left Bool.false_ne_true
  exact (hcourse.fromWithin (fun _ _ => rfl) fun _ _ => rfl).afterRejection htoken rejected
    changes

end Rejections

open Connection in
/-- A session with a token, and a server that rejects it, answers the fetch without another, and
then accepts it. -/
def unrenewed : Line (List WireReply × List WireExchange) where
  session := { oneCookie with token := some "OLD" }
  store := ⟨"sessions", .missing⟩
  server :=
    ([.answer 403 [("X-CSRF-Token", "Required")] [] true, .answer 200 [] [] true,
      .answer 200 [] [] true], [])

open Connection in
/-- The rejected token is sent once more, and the request is answered. -/
theorem unrenewed_sent_again :
    (∃ fetch resent : Sending (List WireReply), fetch.bringsNothing = true ∧
      resent.leg = .retry ∧ ¬ Renews change fetch [resent] (requested host unrenewed)) ∧
    (requested host unrenewed).2.exchanges.map (·.request.tokens) = [["OLD"], ["fetch"], ["OLD"]] ∧
    (requested host unrenewed).1.isOk = true := by
  refine ⟨?_, by decide +kernel, by decide +kernel⟩
  obtain ⟨sent, hcourse, -, -, hafter⟩ := renews_iff host scripted ⟨1700000060, 0⟩ .stateless
    .sound change rfl unrenewed
  have hfetch := hcourse.eq_sending
  obtain ⟨rest, rfl⟩ := hcourse.starts
  have hrejected : (sending host scripted ⟨1700000060, 0⟩ .stateless .sound change
      (firstLeg change unrenewed.session) unrenewed).isRejected = true := by decide +kernel
  obtain ⟨fetch, resent, rfl, hthen⟩ := hafter [] _ rest rfl hrejected
  have hbrings : fetch.bringsNothing = true := by
    rw [hfetch fetch (by simp), hthen.follows.1, hthen.follows.2]
    decide +kernel
  obtain ⟨s, rfl, -⟩ := hthen.stale hbrings
  refine ⟨fetch, s, hbrings, hthen.retry s (by simp), fun hrenews => ?_⟩
  rw [hthen.renews.1 hrenews] at hbrings
  cases hbrings

end EditLock.Link
