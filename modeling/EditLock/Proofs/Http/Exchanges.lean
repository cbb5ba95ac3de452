/-
# What is exchanged with the server

The server is put beside a list in which it writes down every request that it got and what it did
about it, so that the talks of a link can be judged by what went over the wire and not by what they
report. A request goes out among fetches of a token, and never again after it succeeded. What can then
still go wrong is the save of what the answer brought along: the request fails though the server has
done what was asked.

Key definitions: `WireExchange`, `Server.recorded`, `WireReply.response?`, `Line.SaveFailed`,
`Talk.Records`, `Link.delivered?`, `Link.SendRun`, `Link.SentRun`, `Link.RequestRun`.
Key theorems: `Link.records_request`, `Link.token_of_absorb`, `Link.sent_run`, `Link.send_run`,
`Link.request_run`, `Link.RequestRun.exchanged`.
-/
import EditLock.Proofs.Http.Sendable

namespace EditLock

variable {ρ α β : Type}

/-- A request that reached the server, and what the server did about it. -/
structure WireExchange where
  request : WireRequest
  reply : WireReply

/-- The server beside a list in which it writes down what is exchanged. -/
def Server.recorded (server : Server ρ) : Server (ρ × List WireExchange) where
  respond wire s :=
    let (reply, state) := server.respond wire s.1
    (reply, state, s.2 ++ [⟨wire, reply⟩])
  clock s := server.clock s.1

/-- The disk beside such a list, which it leaves alone. -/
def Disk.beside (disk : Disk ρ) : Disk (ρ × List WireExchange) where
  write s :=
    let (fault, state) := disk.write s.1
    (fault, state, s.2)

/-- The response that a reply amounts to, if it came and can be read to its end. -/
def WireReply.response? : WireReply → Option Response
  | .silence => none
  | .answer status headers body complete =>
    if statusHasBody status && !complete then none
    else
      some { status, headers := NameMap.ofList (Link.readHeaders headers)
             data := if statusHasBody status then Text.decodeLossy body else "" }

namespace WireExchange

/-- What was sent is the request, in some mode and with the cookies and the token of some session. -/
def Carries (link : Link) (r : Request) (x : WireExchange) : Prop :=
  ∃ mode session, link.wireRequest mode session r = .ok x.request

/-- The server answered with a success, and the answer could be read. -/
def Succeeds (x : WireExchange) : Prop :=
  ∃ response, x.reply.response? = some response ∧ response.isSuccess = true

/-- What was sent has the verb and the address of the request. -/
theorem Carries.url {link : Link} {r : Request} {x : WireExchange} (h : x.Carries link r) :
    x.request.method = r.method ∧ ∃ u, link.url r = .ok u ∧ x.request.target = u.target := by
  obtain ⟨mode, session, hsent⟩ := h
  obtain ⟨u, hurl, -, -, hrequest⟩ := Link.wireRequest_eq_ok_iff.1 hsent
  exact ⟨congrArg WireRequest.method hrequest, u, hurl, congrArg WireRequest.target hrequest⟩

end WireExchange

namespace Line

/-- What was exchanged so far. -/
def exchanges (line : Line (ρ × List WireExchange)) : List WireExchange :=
  line.server.2

/-- The last save of the session failed. -/
def SaveFailed (line : Line ρ) (e : Failure) : Prop :=
  ∃ (before : SessionStore) (fault : Option WriteFault),
    before.saveWith fault line.session = (.error e, line.store)

/-- What is left of a line by something that exchanges nothing and fails only where a save fails. -/
def Kept (line : Line (ρ × List WireExchange))
    (out : Except Failure α × Line (ρ × List WireExchange)) : Prop :=
  out.2.exchanges = line.exchanges ∧ ∀ e, out.1 = .error e → out.2.SaveFailed e

/-- The line without the list of what was exchanged. -/
def plain (line : Line (ρ × List WireExchange)) : Line ρ :=
  { line with server := line.server.1 }

end Line

/-! ### Writing down changes nothing -/

namespace Talk

variable {line : Line (ρ × List WireExchange)} {talk other : Talk (ρ × List WireExchange) α}
  {talk' other' : Talk ρ α}

/-- Over a line the talk does what the other does over the line without its list. -/
def RecordsAt (line : Line (ρ × List WireExchange)) (talk : Talk (ρ × List WireExchange) α)
    (talk' : Talk ρ α) : Prop :=
  talk'.perform line.plain = ((talk.perform line).1, (talk.perform line).2.plain)

/-- So it does over every line. -/
def Records (talk : Talk (ρ × List WireExchange) α) (talk' : Talk ρ α) : Prop :=
  ∀ line, RecordsAt line talk talk'

theorem records_pure (a : α) : Records (pure a : Talk (ρ × List WireExchange) α) (pure a) :=
  fun _ => rfl

theorem records_throw (e : Failure) :
    Records (throw e : Talk (ρ × List WireExchange) α) (throw e) :=
  fun _ => rfl

theorem records_ofExcept (x : Except Failure α) :
    Records (ofExcept x : Talk (ρ × List WireExchange) α) (ofExcept x) := by
  cases x with
  | ok a => exact records_pure a
  | error e => exact records_throw e

theorem RecordsAt.bind {f : α → Talk (ρ × List WireExchange) β} {g : α → Talk ρ β}
    (h : RecordsAt line talk talk') (hfg : ∀ a, Records (f a) (g a)) :
    RecordsAt line (talk >>= f) (talk' >>= g) := by
  unfold RecordsAt at h ⊢
  rw [perform_bind, perform_bind, h]
  generalize talk.perform line = performed
  obtain ⟨result, line'⟩ := performed
  cases result with
  | error e => rfl
  | ok a => exact hfg a line'

theorem Records.bind {f : α → Talk (ρ × List WireExchange) β} {g : α → Talk ρ β}
    (h : Records talk talk') (hfg : ∀ a, Records (f a) (g a)) :
    Records (talk >>= f) (talk' >>= g) :=
  fun line => (h line).bind hfg

/-- The line is looked up, and what follows is done alike. -/
theorem RecordsAt.get_bind {f : Line (ρ × List WireExchange) → Talk (ρ × List WireExchange) α}
    {g : Line ρ → Talk ρ α} (h : RecordsAt line (f line) (g line.plain)) :
    RecordsAt line (get >>= f) (get >>= g) := by
  unfold RecordsAt at h ⊢
  rw [perform_bind, perform_bind, perform_get, perform_get]
  exact h

theorem Records.ite {c : Prop} [Decidable c] (h : Records talk talk')
    (hother : Records other other') :
    Records (if c then talk else other) (if c then talk' else other') := by
  split
  · exact h
  · exact hother

end Talk

namespace Link

open Talk

section Recording

variable (link : Link) (server : Server ρ) (now : Instant) (mode : SessionMode) (disk : Disk ρ)

theorem records_exchange (wire : WireRequest) :
    Records (exchange server.recorded wire) (exchange server wire) :=
  fun _ => rfl

theorem records_keep (session : Session) :
    Records (keep session disk.beside) (keep session disk) := by
  intro line
  unfold RecordsAt
  rw [perform_keep, perform_keep]
  rfl

theorem records_absorb (cookies : List String) (token : Option String) :
    Records (absorb now cookies token disk.beside) (absorb now cookies token disk) := by
  intro line
  refine RecordsAt.get_bind ?_
  dsimp only [Line.plain]
  split_ifs
  · exact records_keep disk _ line
  · exact records_pure () line

theorem records_send (r : Request) :
    Records (link.send server.recorded now mode r disk.beside)
      (link.send server now mode r disk) := by
  intro line
  refine RecordsAt.get_bind (RecordsAt.bind (records_ofExcept _ line) fun wire => ?_)
  refine (records_exchange server wire).bind fun reply => ?_
  cases reply with
  | silence => exact records_throw _
  | answer status headers body complete =>
    exact .ite (records_throw _) ((records_absorb now disk _ _).bind fun _ => records_pure _)

theorem records_fetchToken :
    Records (link.fetchToken server.recorded now mode disk.beside)
      (link.fetchToken server now mode disk) := by
  refine (records_send link server now mode disk fetchRequest).bind fun response => ?_
  refine .ite (fun line => RecordsAt.get_bind ?_) (records_throw _)
  exact Records.ite (records_throw _) (records_pure _) line

theorem records_settled (response : Response) :
    Records (settled response : Talk (ρ × List WireExchange) Response) (settled response) :=
  .ite (records_pure _) (records_throw _)

/-- **A request is made alike whether or not its exchanges are written down.** -/
theorem records_request (r : Request) :
    Records (link.request server.recorded now mode r disk.beside)
      (link.request server now mode r disk) := by
  have hsend := records_send link server now mode disk r
  have hfetch := records_fetchToken link server now mode disk
  have hrest : Records
      (do
        let response ← link.send server.recorded now mode r disk.beside
        if asksForToken response && r.method.changes then
          link.fetchToken server.recorded now mode disk.beside
          settled (← link.send server.recorded now mode r disk.beside)
        else settled response)
      (do
        let response ← link.send server now mode r disk
        if asksForToken response && r.method.changes then
          link.fetchToken server now mode disk
          settled (← link.send server now mode r disk)
        else settled response) := by
    refine hsend.bind fun response => ?_
    exact (hfetch.bind fun _ => hsend.bind records_settled).ite (records_settled response)
  intro line
  exact .get_bind ((hfetch.bind fun _ => hrest).ite hrest line)

end Recording

/-! ### Tokens that are delivered -/

/-- Whether the value of the token header is a token, and not one of the words that the server and
the link use in its place. -/
def isToken (value : String) : Bool :=
  !(["required", "fetch"].contains (Text.asciiLower value))

/-- The token that a response delivers, if any. -/
def delivered? (response : Response) : Option String :=
  (response.header? tokenHeader).filter isToken

theorem token_mergeSetCookie (s : Session) (header : String) :
    (s.mergeSetCookie header).1.token = s.token := by
  unfold Session.mergeSetCookie
  split
  · rfl
  · dsimp only
    split_ifs <;> rfl

theorem token_foldl_withCookie (cookies : List String) (before : Session × Bool) :
    (cookies.foldl withCookie before).1.token = before.1.token :=
  foldl_withCookie_induction (P := fun s => s.token = before.1.token)
    (fun header _ s hs => (token_mergeSetCookie s header).trans hs) rfl

/-- A token takes the place of the one there, and nothing else does. Where the session is said to be
unchanged, the token is the one there. -/
theorem token_absorbed (s : Session) (cookies : List String) (token : Option String) :
    (absorbed s cookies token).1.token = (token.filter isToken).or s.token ∧
      ((absorbed s cookies token).2 = false → (absorbed s cookies token).1.token = s.token) := by
  have hcookies := token_foldl_withCookie cookies (s, false)
  unfold absorbed
  generalize cookies.foldl withCookie (s, false) = merged at hcookies ⊢
  obtain ⟨merged, changed⟩ := merged
  cases token with
  | none => exact ⟨hcookies, fun _ => hcookies⟩
  | some token =>
    dsimp only
    by_cases hword : ["required", "fetch"].contains (Text.asciiLower token) = true
    · have hno : isToken token = false := by rw [isToken, hword, Bool.not_true]
      rw [if_pos hword, Option.filter_some, hno]
      exact ⟨hcookies, fun _ => hcookies⟩
    · have hyes : isToken token = true := by
        rw [isToken, Bool.eq_false_iff.2 hword, Bool.not_false]
      rw [if_neg hword, Option.filter_some, hyes]
      unfold Session.setToken
      by_cases hsame : merged.token = some token
      · rw [if_pos hsame]
        exact ⟨hsame, fun _ => hcookies⟩
      · rw [if_neg hsame]
        exact ⟨rfl, fun hchanged => by simp at hchanged⟩

/-! ### Sending once -/

section Sends

variable (link : Link) (server : Server ρ) (now : Instant) (mode : SessionMode) (r : Request)
  (disk : Disk ρ)

/-- What comes of sending a request once. -/
inductive SendRun (line : Line (ρ × List WireExchange)) :
    Except Failure Response × Line (ρ × List WireExchange) → Prop
  /-- It cannot be sent. -/
  | unsent (e : Failure) : SendRun line (.error e, line)
  /-- No answer came, or none that can be read to its end. -/
  | unread {x : WireExchange} {line' : Line (ρ × List WireExchange)} (carried : x.Carries link r)
      (noted : line'.exchanges = line.exchanges ++ [x]) (unread : x.reply.response? = none)
      (e : Failure) : SendRun line (.error e, line')
  /-- What the answer brought along could not be saved. -/
  | unsaved {x : WireExchange} {line' : Line (ρ × List WireExchange)} {response : Response}
      {e : Failure} (carried : x.Carries link r) (noted : line'.exchanges = line.exchanges ++ [x])
      (read : x.reply.response? = some response) (unsaved : line'.SaveFailed e) :
      SendRun line (.error e, line')
  | answered {x : WireExchange} {line' : Line (ρ × List WireExchange)} {response : Response}
      (carried : x.Carries link r) (noted : line'.exchanges = line.exchanges ++ [x])
      (read : x.reply.response? = some response) : SendRun line (.ok response, line')

theorem keep_kept (session : Session) (line : Line (ρ × List WireExchange)) :
    line.Kept ((keep session disk.beside).perform line) := by
  rw [perform_keep]
  refine ⟨rfl, fun e he => ⟨line.store, (disk.write line.server.1).1, ?_⟩⟩
  exact Prod.ext he rfl

theorem absorb_kept (cookies : List String) (token : Option String)
    (line : Line (ρ × List WireExchange)) :
    line.Kept ((absorb now cookies token disk.beside).perform line) := by
  unfold absorb
  rw [perform_bind, perform_get]
  dsimp only
  split_ifs
  · exact keep_kept disk _ line
  · exact ⟨rfl, nofun⟩

/-- After cookies and a token were taken over, the session has the token if it is one, and else its
own. -/
theorem token_of_absorb {cookies : List String} {token : Option String}
    {line line' : Line (ρ × List WireExchange)}
    (h : (absorb now cookies token disk.beside).perform line = (.ok (), line')) :
    line'.session.token = (token.filter isToken).or line.session.token := by
  obtain ⟨htoken, hsame⟩ := token_absorbed line.session cookies token
  unfold absorb at h
  rw [perform_bind, perform_get] at h
  dsimp only at h
  split_ifs at h with hchanged
  · rw [perform_keep] at h
    rw [← congrArg (·.2.session.token) h]
    exact htoken
  · rw [← congrArg (·.2.session.token) h, ← htoken]
    exact (hsame (Bool.eq_false_iff.2 hchanged)).symm

/-- What comes of sending a request once, with what went over the wire and the token that is left. -/
inductive SentRun (line : Line (ρ × List WireExchange)) :
    Option WireExchange → Except Failure Response × Line (ρ × List WireExchange) → Prop
  /-- It cannot be sent. -/
  | unsent {e : Failure} (unsendable : link.wireRequest mode line.session r = .error e) :
      SentRun line none (.error e, line)
  /-- No answer came, or none that can be read to its end. -/
  | unread {wire : WireRequest} {line' : Line (ρ × List WireExchange)} {x : WireExchange}
      (sendable : link.wireRequest mode line.session r = .ok wire)
      (exchanged : x = ⟨wire, (server.respond wire line.server.1).1⟩)
      (noted : line'.exchanges = line.exchanges ++ [x]) (unread : x.reply.response? = none)
      (e : Failure) : SentRun line (some x) (.error e, line')
  /-- What the answer brought along could not be saved. -/
  | unsaved {wire : WireRequest} {line' : Line (ρ × List WireExchange)} {x : WireExchange}
      {response : Response} {e : Failure}
      (sendable : link.wireRequest mode line.session r = .ok wire)
      (exchanged : x = ⟨wire, (server.respond wire line.server.1).1⟩)
      (noted : line'.exchanges = line.exchanges ++ [x])
      (read : x.reply.response? = some response) (unsaved : line'.SaveFailed e) :
      SentRun line (some x) (.error e, line')
  | answered {wire : WireRequest} {line' : Line (ρ × List WireExchange)} {x : WireExchange}
      {response : Response} (sendable : link.wireRequest mode line.session r = .ok wire)
      (exchanged : x = ⟨wire, (server.respond wire line.server.1).1⟩)
      (noted : line'.exchanges = line.exchanges ++ [x])
      (read : x.reply.response? = some response)
      (token : line'.session.token = (delivered? response).or line.session.token) :
      SentRun line (some x) (.ok response, line')

/-- What goes over the wire when a request is sent, if it can be sent. -/
def exchange? (line : Line (ρ × List WireExchange)) : Option WireExchange :=
  (link.wireRequest mode line.session r).toOption.map fun wire =>
    ⟨wire, (server.respond wire line.server.1).1⟩

variable {link server mode r} in
/-- It goes over the wire iff it can be sent. -/
theorem isSome_exchange?_iff {line : Line (ρ × List WireExchange)} :
    (exchange? link server mode r line).isSome = true ↔ CanSend link line.session r := by
  rw [← isOk_wireRequest_iff mode]
  unfold exchange?
  cases link.wireRequest mode line.session r <;> simp [Except.isOk, Except.toBool, Except.toOption]

variable {link server mode r} in
/-- An answer that was read is given out once what it brought along is saved, its token with it. -/
theorem sentRun_of_absorb {line line' : Line (ρ × List WireExchange)} {wire : WireRequest}
    {x : WireExchange} {response : Response} (cookies : List String)
    (sendable : link.wireRequest mode line.session r = .ok wire)
    (exchanged : x = ⟨wire, (server.respond wire line.server.1).1⟩)
    (noted : line'.exchanges = line.exchanges ++ [x]) (same : line'.session = line.session)
    (read : x.reply.response? = some response) :
    SentRun link server mode r line (some x)
      ((absorb now cookies (response.header? tokenHeader) disk.beside >>=
        fun _ => pure response).perform line') := by
  have hkept := absorb_kept now disk cookies (response.header? tokenHeader) line'
  rw [perform_bind]
  generalize habsorbed :
    (absorb now cookies (response.header? tokenHeader) disk.beside).perform line' = absorbed
    at hkept ⊢
  obtain ⟨result, line''⟩ := absorbed
  obtain ⟨hexchanges, hfailed⟩ := hkept
  cases result with
  | error e =>
    exact .unsaved sendable exchanged (hexchanges.trans noted) read (hfailed e rfl)
  | ok _ =>
    have htoken := token_of_absorb now disk habsorbed
    rw [same] at htoken
    exact .answered sendable exchanged (hexchanges.trans noted) read htoken

theorem sent_run (line : Line (ρ × List WireExchange)) :
    SentRun link server mode r line (exchange? link server mode r line)
      ((link.send server.recorded now mode r disk.beside).perform line) := by
  unfold send exchange?
  rw [perform_bind, perform_get]
  dsimp only
  rw [perform_bind, perform_ofExcept]
  cases hwire : link.wireRequest mode line.session r with
  | error e => exact .unsent hwire
  | ok wire =>
    dsimp only [Except.toOption, Option.map_some]
    have hreply : (server.respond wire line.server.1).1 =
        (server.recorded.respond wire line.server).1 := rfl
    rw [perform_bind, perform_exchange, hreply]
    generalize hdone : server.recorded.respond wire line.server = done
    obtain ⟨reply, state⟩ := done
    have hexchanged : (⟨wire, reply⟩ : WireExchange) =
        ⟨wire, (server.respond wire line.server.1).1⟩ := by
      rw [hreply, hdone]
    have hnoted : ({ line with server := state } : Line (ρ × List WireExchange)).exchanges =
        line.exchanges ++ [⟨wire, reply⟩] := by
      cases hdone
      rfl
    cases reply with
    | silence => exact .unread hwire hexchanged hnoted rfl _
    | answer status headers body complete =>
      dsimp only
      by_cases hbroken : (statusHasBody status && !complete) = true
      · rw [if_pos hbroken]
        exact .unread hwire hexchanged hnoted (if_pos hbroken) _
      · rw [if_neg hbroken]
        exact sentRun_of_absorb now disk _ hwire hexchanged hnoted rfl (if_neg hbroken)

/-- It is enough to know of what went over the wire that it carried the request. -/
theorem send_run (line : Line (ρ × List WireExchange)) :
    SendRun link r line ((link.send server.recorded now mode r disk.beside).perform line) := by
  have hrun := sent_run link server now mode r disk line
  generalize (link.send server.recorded now mode r disk.beside).perform line = out at hrun ⊢
  generalize exchange? link server mode r line = x? at hrun
  cases hrun with
  | unsent => exact .unsent _
  | unread sendable exchanged noted unread e =>
    subst exchanged
    exact .unread ⟨mode, line.session, sendable⟩ noted unread e
  | unsaved sendable exchanged noted read unsaved =>
    subst exchanged
    exact .unsaved ⟨mode, line.session, sendable⟩ noted read unsaved
  | answered sendable exchanged noted read =>
    subst exchanged
    exact .answered ⟨mode, line.session, sendable⟩ noted read

end Sends

/-! ### Sending until there is a success -/

section Requests

variable (link : Link) (server : Server ρ) (now : Instant) (mode : SessionMode) (r : Request)
  (disk : Disk ρ)

/-- What was exchanged on the way from one line to another is the request and fetches of a token,
and the request did not succeed. -/
def Tried (line line' : Line (ρ × List WireExchange)) : Prop :=
  ∃ xs : List WireExchange, line'.exchanges = line.exchanges ++ xs ∧
    ∀ x ∈ xs, x.Carries link fetchRequest ∨ x.Carries link r ∧ ¬ x.Succeeds

/-- The same, except that the last exchange is the request and succeeds with the response. -/
def Served (response : Response) (line line' : Line (ρ × List WireExchange)) : Prop :=
  ∃ (before : Line (ρ × List WireExchange)) (x : WireExchange),
    Tried link r line before ∧ line'.exchanges = before.exchanges ++ [x] ∧
      x.Carries link r ∧ x.reply.response? = some response ∧ response.isSuccess = true

/-- What comes of a request. -/
inductive RequestRun (line : Line (ρ × List WireExchange)) :
    Except Failure Response × Line (ρ × List WireExchange) → Prop
  | failed {line' : Line (ρ × List WireExchange)} (tried : Tried link r line line') (e : Failure) :
      RequestRun line (.error e, line')
  /-- The request succeeded, but what the answer brought along could not be saved. -/
  | unsaved {line' : Line (ρ × List WireExchange)} {response : Response} {e : Failure}
      (served : Served link r response line line') (unsaved : line'.SaveFailed e) :
      RequestRun line (.error e, line')
  | answered {line' : Line (ρ × List WireExchange)} {response : Response}
      (served : Served link r response line line') : RequestRun line (.ok response, line')

variable {link r} {line line' line'' : Line (ρ × List WireExchange)}

theorem Tried.refl (line : Line (ρ × List WireExchange)) : Tried link r line line :=
  ⟨[], (List.append_nil _).symm, nofun⟩

theorem Tried.trans (h : Tried link r line line') (h' : Tried link r line' line'') :
    Tried link r line line'' := by
  obtain ⟨xs, hxs, hown⟩ := h
  obtain ⟨ys, hys, hown'⟩ := h'
  refine ⟨xs ++ ys, by rw [hys, hxs, List.append_assoc], fun x hx => ?_⟩
  rcases List.mem_append.1 hx with hx | hx
  · exact hown x hx
  · exact hown' x hx

theorem Tried.served {response : Response} (h : Tried link r line line')
    (h' : Served link r response line' line'') : Served link r response line line'' := by
  obtain ⟨before, x, htried, hx⟩ := h'
  exact ⟨before, x, h.trans htried, hx⟩

/-- One more exchange that is a fetch, or the request without success. -/
theorem tried_of_noted {x : WireExchange} (noted : line'.exchanges = line.exchanges ++ [x])
    (own : x.Carries link fetchRequest ∨ x.Carries link r ∧ ¬ x.Succeeds) :
    Tried link r line line' :=
  ⟨[x], noted, fun y hy => by rwa [List.mem_singleton.1 hy]⟩

theorem served_of_noted {x : WireExchange} {response : Response}
    (noted : line'.exchanges = line.exchanges ++ [x]) (carried : x.Carries link r)
    (read : x.reply.response? = some response) (success : response.isSuccess = true) :
    Served link r response line line' :=
  ⟨line, x, .refl line, noted, carried, read, success⟩

theorem not_succeeds_of_unread {x : WireExchange} (h : x.reply.response? = none) :
    ¬ x.Succeeds := by
  rintro ⟨response, hread, -⟩
  rw [h] at hread
  cases hread

theorem not_succeeds_of_read {x : WireExchange} {response : Response}
    (h : x.reply.response? = some response) (hno : response.isSuccess = false) :
    ¬ x.Succeeds := by
  rintro ⟨response', hread, hyes⟩
  rw [h] at hread
  cases hread
  rw [hno] at hyes
  cases hyes

theorem RequestRun.of_tried (h : Tried link r line line')
    {out : Except Failure Response × Line (ρ × List WireExchange)}
    (hrun : RequestRun link r line' out) : RequestRun link r line out := by
  cases hrun with
  | failed tried e => exact .failed (h.trans tried) e
  | unsaved served unsaved => exact .unsaved (h.served served) unsaved
  | answered served => exact .answered (h.served served)

/-- A token is fetched with nothing but a fetch. -/
theorem tried_fetchToken (line : Line (ρ × List WireExchange)) :
    Tried link r line ((link.fetchToken server.recorded now mode disk.beside).perform line).2 := by
  unfold fetchToken
  rw [perform_bind]
  have hrun := send_run link server now mode fetchRequest disk line
  generalize (link.send server.recorded now mode fetchRequest disk.beside).perform line = sent
    at hrun ⊢
  cases hrun with
  | unsent e => exact .refl line
  | unread carried noted => exact tried_of_noted noted (.inl carried)
  | unsaved carried noted => exact tried_of_noted noted (.inl carried)
  | answered carried noted =>
    dsimp only
    split_ifs
    · rw [perform_bind, perform_get]
      dsimp only
      split_ifs <;> exact tried_of_noted noted (.inl carried)
    · exact tried_of_noted noted (.inl carried)

/-- What follows on fetching a token is run after nothing but a fetch, if at all. -/
theorem requestRun_of_fetch {next : Unit → Talk (ρ × List WireExchange) Response}
    (h : ∀ line', RequestRun link r line' ((next ()).perform line'))
    (line : Line (ρ × List WireExchange)) :
    RequestRun link r line
      ((link.fetchToken server.recorded now mode disk.beside >>= next).perform line) := by
  rw [perform_bind]
  have htried : Tried link r line
      ((link.fetchToken server.recorded now mode disk.beside).perform line).2 :=
    tried_fetchToken server now mode disk line
  generalize (link.fetchToken server.recorded now mode disk.beside).perform line = fetched
    at htried ⊢
  obtain ⟨result, line'⟩ := fetched
  cases result with
  | error e => exact .failed htried e
  | ok _ => exact (h line').of_tried htried

/-- A success is given out, and whatever else was answered is dealt with. -/
theorem requestRun_of_send {f : Response → Talk (ρ × List WireExchange) Response}
    (given : ∀ response line', response.isSuccess = true →
      (f response).perform line' = (.ok response, line'))
    (dealt : ∀ response line', response.isSuccess = false →
      RequestRun link r line' ((f response).perform line')) (line : Line (ρ × List WireExchange)) :
    RequestRun link r line
      ((link.send server.recorded now mode r disk.beside >>= f).perform line) := by
  rw [perform_bind]
  have hrun := send_run link server now mode r disk line
  generalize (link.send server.recorded now mode r disk.beside).perform line = sent at hrun ⊢
  cases hrun with
  | unsent e => exact .failed (.refl line) e
  | unread carried noted unread =>
    exact .failed (tried_of_noted noted (.inr ⟨carried, not_succeeds_of_unread unread⟩)) _
  | @unsaved x line' response e carried noted read unsaved =>
    cases hsuccess : response.isSuccess with
    | true => exact .unsaved (served_of_noted noted carried read hsuccess) unsaved
    | false =>
      exact .failed (tried_of_noted noted (.inr ⟨carried, not_succeeds_of_read read hsuccess⟩)) e
  | @answered x line' response carried noted read =>
    dsimp only
    cases hsuccess : response.isSuccess with
    | true =>
      rw [given response line' hsuccess]
      exact .answered (served_of_noted noted carried read hsuccess)
    | false =>
      have htried : Tried link r line line' :=
        tried_of_noted noted (.inr ⟨carried, not_succeeds_of_read read hsuccess⟩)
      exact (dealt response line' hsuccess).of_tried htried

theorem perform_settled (response : Response) (line : Line ρ) :
    (settled response).perform line = (response.result, line) := by
  unfold settled Response.result
  split_ifs <;> rfl

theorem perform_settled_success {response : Response} (h : response.isSuccess = true)
    (line : Line ρ) : (settled response).perform line = (.ok response, line) := by
  rw [perform_settled, Response.result, if_pos h]

theorem requestRun_settled {response : Response} (h : response.isSuccess = false)
    (line : Line (ρ × List WireExchange)) :
    RequestRun link r line ((settled response).perform line) := by
  rw [perform_settled, Response.result, if_neg (by rw [h]; exact Bool.false_ne_true)]
  exact .failed (.refl line) _

/-- A success does not ask for a token. -/
theorem asksForToken_of_isSuccess {response : Response} (h : response.isSuccess = true) :
    asksForToken response = false := by
  have hstatus : (response.status == 403) = false := by
    simp only [Response.isSuccess, Bool.and_eq_true, decide_eq_true_eq] at h
    simp only [beq_eq_false_iff_ne]
    omega
  unfold asksForToken
  rw [hstatus, Bool.false_and]

variable (link r) in
/-- **A request succeeds once at most**, and then it gives the response or fails at a save. -/
theorem request_run (line : Line (ρ × List WireExchange)) :
    RequestRun link r line
      ((link.request server.recorded now mode r disk.beside).perform line) := by
  have hagain : ∀ line', RequestRun link r line'
      ((link.send server.recorded now mode r disk.beside >>= settled).perform line') :=
    requestRun_of_send server now mode disk (fun _ line' hyes => perform_settled_success hyes line')
      fun _ line' hno => requestRun_settled hno line'
  have hrest : ∀ line', RequestRun link r line' ((do
      let response ← link.send server.recorded now mode r disk.beside
      if asksForToken response && r.method.changes then
        link.fetchToken server.recorded now mode disk.beside
        settled (← link.send server.recorded now mode r disk.beside)
      else settled response : Talk (ρ × List WireExchange) Response).perform line') := by
    refine requestRun_of_send server now mode disk (fun response line' hyes => ?_)
      fun response line' hno => ?_
    · rw [asksForToken_of_isSuccess hyes]
      exact perform_settled_success hyes line'
    · split_ifs
      · exact requestRun_of_fetch server now mode disk hagain line'
      · exact requestRun_settled hno line'
  unfold request
  rw [perform_bind, perform_get]
  dsimp only
  split_ifs
  · exact requestRun_of_fetch server now mode disk hrest line
  · exact hrest line

/-- The exchanges on the way to a success that has a property, each a fetch or the request. -/
theorem Served.exchanged {response : Response} {P : Response → Prop}
    (h : Served link r response line line') (hp : P response) :
    ∃ xs : List WireExchange, line'.exchanges = line.exchanges ++ xs ∧
      ∀ x ∈ xs, x.Carries link fetchRequest ∨ x.Carries link r ∧
        ∀ response, x.reply.response? = some response → response.isSuccess = true → P response := by
  obtain ⟨before, x, ⟨xs, hxs, hown⟩, hlast, hcarried, hread, -⟩ := h
  refine ⟨xs ++ [x], by rw [hlast, hxs, List.append_assoc], fun y hy => ?_⟩
  rcases List.mem_append.1 hy with hy | hy
  · refine (hown y hy).imp_right fun ⟨hcarries, hno⟩ => ⟨hcarries, fun response hr hyes => ?_⟩
    exact absurd ⟨response, hr, hyes⟩ hno
  · obtain rfl := List.mem_singleton.1 hy
    refine .inr ⟨hcarried, fun response hr _ => ?_⟩
    rw [hread] at hr
    exact Option.some.inj hr ▸ hp

/-- Whatever comes of a request, nothing but it and fetches of a token were exchanged, and if it
succeeded then the response was given out or what came with it could not be saved. -/
theorem RequestRun.exchanged {out : Except Failure Response × Line (ρ × List WireExchange)}
    (h : RequestRun link r line out) :
    ∃ xs : List WireExchange, out.2.exchanges = line.exchanges ++ xs ∧
      ∀ x ∈ xs, x.Carries link fetchRequest ∨ x.Carries link r ∧
        ∀ response, x.reply.response? = some response → response.isSuccess = true →
          out.1 = .ok response ∨ ∃ e, out.1 = .error e ∧ out.2.SaveFailed e := by
  cases h with
  | failed tried e =>
    obtain ⟨xs, hxs, hown⟩ := tried
    refine ⟨xs, hxs, fun x hx => (hown x hx).imp_right fun ⟨hcarries, hno⟩ => ?_⟩
    exact ⟨hcarries, fun response hr hyes => absurd ⟨response, hr, hyes⟩ hno⟩
  | unsaved served unsaved => exact served.exchanged (.inr ⟨_, rfl, unsaved⟩)
  | answered served => exact served.exchanged (.inl rfl)

end Requests

end Link

end EditLock
