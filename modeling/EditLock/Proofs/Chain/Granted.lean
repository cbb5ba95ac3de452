/-
# What becomes of a lock that the server granted

A lock that the server granted over a link is accounted for when it is held and recorded, when it was
released again, or when the chain still knows its handle, so that it can be released later. The one
way in which a grant is lost lies between the answer and the chain: the answer brought cookies or a
token along, and the session with them could not be saved. Then the request for the lock fails, and
neither the chain nor the registry ever learns of the handle.

All this is read off a list in which the server writes down what is exchanged; with and without the
list a lock is taken alike.

Key definitions: `WireExchange.Asks`, `WireExchange.Grants`, `Chain.Accounted`, `Chain.GrantLost`.
Key theorems: `WireExchange.Asks.not_unlock`, `Link.askedRun`, `Chain.lock_plain`,
`Chain.grant_accounted_iff`.
-/
import EditLock.Proofs.Chain.Outcomes
import EditLock.Proofs.Http.Exchanges

namespace EditLock

open Act

variable {ρ : Type}

/-! ### Addresses of requests -/

namespace Url

open Text

/-- The query to which the next parameter is appended. -/
def queryStart (u : Url) : List Char :=
  let start := (u.query.getD "").toList
  if start.isEmpty then start else start ++ ['&']

/-- Parameters are written one behind the other. -/
theorem foldl_formPair (pairs : List (String × String)) (q : List Char) :
    ∃ rest, pairs.foldl (fun (q : List Char) p =>
      (if q.isEmpty then q else q ++ ['&']) ++ formPair p) q = q ++ rest := by
  induction pairs generalizing q with
  | nil => exact ⟨[], (List.append_nil q).symm⟩
  | cons p pairs ih =>
    obtain ⟨rest, hrest⟩ := ih ((if q.isEmpty then q else q ++ ['&']) ++ formPair p)
    rw [List.foldl_cons, hrest]
    split_ifs
    · exact ⟨formPair p ++ rest, List.append_assoc ..⟩
    · exact ⟨['&'] ++ formPair p ++ rest, by simp only [List.append_assoc]⟩

/-- The first parameter that is added stands right behind what was there before. -/
theorem target_withPairs_cons (u : Url) (p : String × String) (pairs : List (String × String)) :
    ∃ rest, (u.withPairs (p :: pairs)).target =
      u.path ++ "?" ++ String.ofList (u.queryStart ++ (formPair p ++ rest)) := by
  obtain ⟨rest, hrest⟩ := foldl_formPair pairs (u.queryStart ++ formPair p)
  rw [List.append_assoc] at hrest
  refine ⟨rest, ?_⟩
  have hfold : (p :: pairs).foldl (fun (q : List Char) p =>
      (if q.isEmpty then q else q ++ ['&']) ++ formPair p) (u.query.getD "").toList =
        u.queryStart ++ (formPair p ++ rest) := hrest
  have hfilled : (u.queryStart ++ (formPair p ++ rest)).isEmpty = false := by
    simp [formPair]
  unfold withPairs target
  simp only [hfold, hfilled, Bool.false_eq_true, if_false]

end Url

namespace WireExchange

open Text

variable {link : Link} {r r' : Request} {x : WireExchange} {p p' : String × String}
  {pairs pairs' : List (String × String)}

/-- The address of a request with a first parameter. -/
theorem Carries.target (h : x.Carries link r) (hquery : r.query = p :: pairs) :
    ∃ u rest, Url.read? (link.baseUrl ++ r.path) = some u ∧
      x.request.target = u.path ++ "?" ++ String.ofList (u.queryStart ++ (formPair p ++ rest)) := by
  obtain ⟨-, v, hurl, htarget⟩ := h.url
  unfold Link.url at hurl
  cases hread : Url.read? (link.baseUrl ++ r.path) with
  | none =>
    rw [hread] at hurl
    cases hurl
  | some u =>
    rw [hread, hquery] at hurl
    obtain ⟨rest, hrest⟩ := u.target_withPairs_cons p
      (pairs ++ (link.client.map fun c => ("sap-client", c)).toList)
    exact ⟨u, rest, rfl, by rw [htarget, ← Except.ok.inj hurl]; exact hrest⟩

/-- Requests to one place that start with parameters apart are told apart on the wire. -/
theorem not_carries_both (hpath : r'.path = r.path) (hquery : r.query = p :: pairs)
    (hquery' : r'.query = p' :: pairs')
    (apart : ∀ rest rest', formPair p ++ rest ≠ formPair p' ++ rest') (h : x.Carries link r) :
    ¬ x.Carries link r' := by
  intro h'
  obtain ⟨u, rest, hread, htarget⟩ := h.target hquery
  obtain ⟨u', rest', hread', htarget'⟩ := h'.target hquery'
  rw [hpath, hread] at hread'
  obtain rfl := Option.some.inj hread'
  rw [htarget] at htarget'
  have hsame := congrArg String.toList htarget'
  simp only [String.toList_append, String.toList_ofList, List.append_assoc,
    List.append_cancel_left_eq] at hsame
  exact apart rest rest' hsame

/-- A verb that changes something is no fetch. -/
theorem Carries.not_fetch (h : x.Carries link r) (hchanges : r.method ≠ .get) :
    ¬ x.Carries link Link.fetchRequest := by
  intro hfetch
  exact hchanges (h.url.1.symm.trans hfetch.url.1)

end WireExchange

/-! ### Calls that take and release locks -/

/-- The server was asked to do what a call says for an object. -/
def WireExchange.Asks (link : Link) (o : ObjectRef) (c : Call) (x : WireExchange) : Prop :=
  ∃ r, c.request o = .ok r ∧ x.Carries link r

/-- The server was asked for the lock of an object and answered with the handle, completely and with
a success. -/
def WireExchange.Grants (link : Link) (o : ObjectRef) (handle : String) (x : WireExchange) : Prop :=
  x.Asks link o .lock ∧ ∃ response, x.reply.response? = some response ∧
    response.isSuccess = true ∧ lockHandle? response.data = some handle

/-- What is to be done about a lock, as requests say it. -/
def Call.action? : Call → Option String
  | lock => some "LOCK"
  | unlock _ => some "UNLOCK"
  | _ => none

/-- Such a request goes to the object's place and starts with its action. -/
theorem Call.request_of_action {c : Call} {action : String} {o : ObjectRef} {r : Request}
    (hc : c.action? = some action) (h : c.request o = .ok r) :
    r.method = .post ∧ o.objectPath = .ok r.path ∧ ∃ rest, r.query = ("_action", action) :: rest := by
  cases hpath : o.objectPath with
  | error e => cases c <;> cases hc <;> (rw [request, hpath] at h; cases h)
  | ok path =>
    cases c <;> cases hc <;>
      (rw [request, hpath] at h; obtain rfl := Except.ok.inj h; exact ⟨rfl, rfl, _, rfl⟩)

theorem formPair_lock_ne_unlock (rest rest' : List Char) :
    Text.formPair ("_action", "LOCK") ++ rest ≠ Text.formPair ("_action", "UNLOCK") ++ rest' := by
  have hlock : Text.formPair ("_action", "LOCK") = "_action=LOCK".toList := by decide
  have hunlock : Text.formPair ("_action", "UNLOCK") = "_action=UNLOCK".toList := by decide
  rw [hlock, hunlock]
  simp

namespace WireExchange.Asks

variable {link : Link} {o : ObjectRef} {x : WireExchange}

/-- To ask for a lock is not to release one. -/
theorem not_unlock {handle : String} (h : x.Asks link o .lock) :
    ¬ x.Asks link o (.unlock handle) := by
  rintro ⟨r', hr', hcarries'⟩
  obtain ⟨r, hr, hcarries⟩ := h
  obtain ⟨-, hpath, rest, hquery⟩ := Call.request_of_action rfl hr
  obtain ⟨-, hpath', rest', hquery'⟩ := Call.request_of_action rfl hr'
  rw [hpath] at hpath'
  exact not_carries_both (Except.ok.inj hpath').symm hquery hquery' formPair_lock_ne_unlock
    hcarries hcarries'

/-- Nor is it to fetch a token, and no more is to release one. -/
theorem not_fetch {c : Call} {action : String} (hc : c.action? = some action)
    (h : x.Asks link o c) : ¬ x.Carries link Link.fetchRequest := by
  obtain ⟨r, hr, hcarries⟩ := h
  obtain ⟨hmethod, -⟩ := Call.request_of_action hc hr
  exact hcarries.not_fetch (by rw [hmethod]; decide)

end WireExchange.Asks

/-! ### Calls over a link -/

/-- A call with an action is one request, sent once. -/
theorem Transport.perform_of_action {τ : Type} (t : Transport τ) {c : Call} {action : String}
    (hc : c.action? = some action) {o : ObjectRef} {r : Request} (hr : c.request o = .ok r)
    (mode : SessionMode) (s : τ) :
    t.perform c o mode none s =
      (⟨replyOf (c.conclude (t.send r mode s).1.1), (t.send r mode s).1.2⟩, (t.send r mode s).2) := by
  unfold perform
  rw [hr]
  cases c <;> cases hc <;> rfl

namespace Link

variable (link : Link) (server : Server ρ) (now : Instant) (disk : Disk ρ)

/-- The collaborator that makes its calls over a link whose exchanges are written down. -/
def recording : Collaborator (Line (ρ × List WireExchange)) :=
  (link.transport server.recorded now disk.beside).collaborator

/-- What comes of a call that takes or releases a lock. -/
inductive AskedRun (c : Call) (s : Scene (Line (ρ × List WireExchange))) : Prop
  /-- There is no request for it. -/
  | unmade (e : Failure) (request : c.request s.chain.object = .error e)
      (answer : s.answer (link.recording server now disk) c = .error e)
      (remote : (s.asked (link.recording server now disk) c).remote = s.remote)
  | made {r : Request} (request : c.request s.chain.object = .ok r)
      (result : Except Failure Response)
      (run : RequestRun link r s.remote
        (result, (s.asked (link.recording server now disk) c).remote))
      (answer : s.answer (link.recording server now disk) c = c.conclude result)

variable {c : Call} {action : String} {s : Scene (Line (ρ × List WireExchange))}

theorem askedRun (hc : c.action? = some action) (untimed : s.chain.options.stepLimit = none) :
    AskedRun link server now disk c s := by
  cases hr : c.request s.chain.object with
  | error e =>
    have hreply : (link.recording server now disk).reply c s.chain.object s.chain.mode
        s.chain.options.stepLimit s.remote = (.failed e, s.remote) := by
      unfold recording Transport.collaborator Transport.perform
      dsimp only
      rw [hr]
    refine .unmade e hr ?_ ?_
    · unfold Scene.answer
      rw [hreply]
      rfl
    · unfold Scene.asked
      rw [hreply]
  | ok r =>
    have hrun := request_run link server now s.chain.mode r disk s.remote
    generalize hperformed : (link.request server.recorded now s.chain.mode r disk.beside).perform
      s.remote = performed at hrun
    obtain ⟨result, line⟩ := performed
    have hsend : (link.transport server.recorded now disk.beside).send r s.chain.mode s.remote =
        ((result, server.clock line.server.1 - server.clock s.remote.server.1), line) := by
      unfold transport
      dsimp only
      rw [hperformed]
      rfl
    have hreply : (link.recording server now disk).reply c s.chain.object s.chain.mode
        s.chain.options.stepLimit s.remote = (Transport.replyOf (c.conclude result), line) := by
      unfold recording Transport.collaborator
      dsimp only
      rw [untimed, Transport.perform_of_action _ hc hr, hsend]
    refine .made hr result ?_ ?_
    · unfold Scene.asked
      rw [hreply]
      exact hrun
    · unfold Scene.answer
      rw [hreply]
      cases c.conclude result <;> rfl

variable {link server now disk}

/-- What was exchanged for a call that takes or releases a lock: the call and fetches of a token. -/
theorem AskedRun.exchanged (h : AskedRun link server now disk c s) :
    ∃ xs : List WireExchange,
      (s.asked (link.recording server now disk) c).remote.exchanges = s.remote.exchanges ++ xs ∧
      ∀ x ∈ xs, x.Carries link fetchRequest ∨ x.Asks link s.chain.object c ∧
        ∀ response, x.reply.response? = some response → response.isSuccess = true →
          s.answer (link.recording server now disk) c = c.conclude (.ok response) ∨
          ∃ e, s.answer (link.recording server now disk) c = c.conclude (.error e) ∧
            (s.asked (link.recording server now disk) c).remote.SaveFailed e := by
  cases h with
  | unmade e request answer remote => exact ⟨[], by rw [remote, List.append_nil], nofun⟩
  | made request result run answer =>
    obtain ⟨xs, hxs, hown⟩ := run.exchanged
    refine ⟨xs, hxs, fun x hx => (hown x hx).imp_right fun ⟨hcarries, hsuccess⟩ => ?_⟩
    refine ⟨⟨_, request, hcarries⟩, fun response hr hyes => ?_⟩
    rcases hsuccess response hr hyes with hresult | ⟨e, hresult, hfailed⟩
    · obtain rfl : result = _ := hresult
      exact .inl answer
    · obtain rfl : result = _ := hresult
      exact .inr ⟨e, answer, hfailed⟩

/-- A release that is answered has succeeded on the wire. -/
theorem AskedRun.released {handle : String} {response : Response}
    (h : AskedRun link server now disk (.unlock handle) s)
    (answered : s.answer (link.recording server now disk) (.unlock handle) = .ok response) :
    ∃ x ∈ (s.asked (link.recording server now disk) (.unlock handle)).remote.exchanges,
      x.Asks link s.chain.object (.unlock handle) ∧ x.Succeeds := by
  cases h with
  | unmade e request answer remote =>
    rw [answered] at answer
    cases answer
  | made request result run answer =>
    obtain rfl : result = .ok response := answer.symm.trans answered
    cases run with
    | answered served =>
      obtain ⟨before, x, -, hlast, hcarried, hread, hsuccess⟩ := served
      refine ⟨x, ?_, ⟨_, request, hcarried⟩, _, hread, hsuccess⟩
      rw [hlast]
      exact List.mem_append_right _ (List.mem_singleton_self x)

end Link

/-! ### Writing down changes nothing -/

/-- The scene with nothing exchanged so far, and all that is exchanged from now on written down. -/
def Scene.recorded (s : Scene (Line ρ)) : Scene (Line (ρ × List WireExchange)) :=
  { s with remote := { s.remote with server := (s.remote.server, []) } }

/-- The scene without the list of what was exchanged. -/
def Scene.plain (s : Scene (Line (ρ × List WireExchange))) : Scene (Line ρ) :=
  { s with remote := s.remote.plain }

section Recording

variable (link : Link) (server : Server ρ) (now : Instant) (disk : Disk ρ)

/-- The collaborator that makes its calls over a link. -/
def Link.peer : Collaborator (Line ρ) :=
  (link.transport server now disk).collaborator

variable {c : Call} {action : String} {s : Scene (Line (ρ × List WireExchange))}

theorem Link.reply_plain (hc : c.action? = some action) (o : ObjectRef) (mode : SessionMode)
    (line : Line (ρ × List WireExchange)) :
    (link.peer server now disk).reply c o mode none line.plain =
      (((link.recording server now disk).reply c o mode none line).1,
        ((link.recording server now disk).reply c o mode none line).2.plain) := by
  unfold peer recording Transport.collaborator
  dsimp only
  cases hr : c.request o with
  | error e =>
    unfold Transport.perform
    rw [hr]
  | ok r =>
    rw [Transport.perform_of_action _ hc hr, Transport.perform_of_action _ hc hr]
    unfold transport
    dsimp only
    rw [records_request link server now mode disk r line]

theorem Scene.answer_plain (hc : c.action? = some action)
    (untimed : s.chain.options.stepLimit = none) :
    s.plain.answer (link.peer server now disk) c =
      s.answer (link.recording server now disk) c := by
  have hreply := link.reply_plain server now disk hc s.chain.object s.chain.mode s.remote
  unfold answer plain
  dsimp only
  rw [untimed, hreply]

theorem Scene.asked_plain (hc : c.action? = some action)
    (untimed : s.chain.options.stepLimit = none) :
    s.plain.asked (link.peer server now disk) c =
      (s.asked (link.recording server now disk) c).plain := by
  have hreply := link.reply_plain server now disk hc s.chain.object s.chain.mode s.remote
  have hanswer := s.answer_plain link server now disk hc untimed
  unfold asked
  rw [hanswer]
  unfold plain
  dsimp only
  rw [untimed, hreply]

namespace Chain

theorem releaseUnrecorded_plain (handle : String) (untimed : s.chain.options.stepLimit = none) :
    (releaseUnrecorded (link.peer server now disk) handle).perform s.plain =
      (((releaseUnrecorded (link.recording server now disk) handle).perform s).1,
        ((releaseUnrecorded (link.recording server now disk) handle).perform s).2.plain) := by
  unfold releaseUnrecorded
  simp only [perform_bind, perform_outcome]
  rw [perform_ask, perform_ask, s.answer_plain link server now disk rfl untimed,
    s.asked_plain link server now disk rfl untimed]
  cases s.answer (link.recording server now disk) (.unlock handle) <;> rfl

/-- **A lock is taken alike whether or not what is exchanged for it is written down.** -/
theorem lock_plain (untimed : s.chain.options.stepLimit = none) :
    (lock (link.peer server now disk)).perform s.plain =
      (((lock (link.recording server now disk)).perform s).1,
        ((lock (link.recording server now disk)).perform s).2.plain) := by
  have hanswer : (s.routed .stateful).plain.answer (link.peer server now disk) .lock = _ :=
    (s.routed .stateful).answer_plain link server now disk rfl untimed
  have hasked : (s.routed .stateful).plain.asked (link.peer server now disk) .lock = _ :=
    (s.routed .stateful).asked_plain link server now disk rfl untimed
  have hstage : s.plain.chain.stage = s.chain.stage := rfl
  have hrouted : s.plain.routed .stateful = (s.routed .stateful).plain := rfl
  unfold lock
  rw [perform_bind, perform_bind, perform_allowed, perform_allowed, hstage]
  cases s.chain.stage.next? .lock with
  | none => rfl
  | some next =>
    simp only [perform_bind, perform_setMode, perform_outcome]
    rw [perform_ask, perform_ask, hrouted, hanswer, hasked]
    cases (s.routed .stateful).answer (link.recording server now disk) .lock with
    | error e => rfl
    | ok handle =>
      have huntimed : ((s.routed .stateful).asked (link.recording server now disk)
          .lock).chain.options.stepLimit = none := untimed
      simp only [perform_bind, perform_ownRecord, perform_outcome, perform_consult]
      generalize (s.routed .stateful).asked (link.recording server now disk) .lock = granted
        at huntimed ⊢
      have hset : Registry.setLock (granted.plain.record handle) granted.plain.registry =
          Registry.setLock (granted.record handle) granted.registry := rfl
      rw [hset]
      generalize Registry.setLock (granted.record handle) granted.registry = written
      obtain ⟨result, registry⟩ := written
      cases result with
      | ok _ => rfl
      | error e =>
        have hrelease : (releaseUnrecorded (link.peer server now disk) handle).perform
            (granted.plain.withRegistry registry) = _ :=
          releaseUnrecorded_plain link server now disk (s := granted.withRegistry registry) handle
            huntimed
        dsimp only
        rw [perform_bind, perform_bind, hrelease]
        generalize (releaseUnrecorded (link.recording server now disk) handle).perform
          (granted.withRegistry registry) = released
        obtain ⟨result, left⟩ := released
        cases result with
        | error e => rfl
        | ok _ => rfl

end Chain

end Recording

/-! ### Grants -/

namespace Chain

open Registry

variable (link : Link) (server : Server ρ) (now : Instant) (disk : Disk ρ)

/-- A lock that the server granted is not lost after an attempt to take it. -/
inductive Accounted (handle : String)
    (out : Except Failure String × Scene (Line (ρ × List WireExchange))) : Prop
  /-- The lock is held and recorded. -/
  | held (result : out.1 = .ok handle) {row : Row}
      (found : find? out.2.registry.rows out.2.chain.object.key = some row)
      (own : row.session = out.2.chain.session) (same : row.handle = handle)
  /-- The server released it again. -/
  | released {x : WireExchange} (sent : x ∈ out.2.remote.exchanges)
      (asks : x.Asks link out.2.chain.object (.unlock handle)) (succeeds : x.Succeeds)
  /-- The chain has its handle, so that it can be released later. -/
  | known (handle_eq : out.2.chain.handle = some handle)

/-- The request for the lock fails as a save does that failed last. -/
def GrantLost (s : Scene (Line (ρ × List WireExchange))) : Prop :=
  ∃ e, (s.routed .stateful).answer (link.recording server now disk) .lock = .error e ∧
    (lockAsked (link.recording server now disk) s).remote.SaveFailed e

variable {link server now disk} {handle : String} {s : Scene (Line (ρ × List WireExchange))}

/-- Where the chain gets a handle, no grant is lost. -/
theorem not_grantLost_of_answer
    (answer : (s.routed .stateful).answer (link.recording server now disk) .lock = .ok handle) :
    ¬ GrantLost link server now disk s := by
  rintro ⟨e, herror, -⟩
  rw [answer] at herror
  cases herror

/-- What is exchanged for a lock releases none, and where it grants one, the chain gets the handle
unless the grant is lost. -/
theorem lockAsked_exchanged (untimed : s.chain.options.stepLimit = none)
    (fresh : s.remote.exchanges = []) {x : WireExchange}
    (hx : x ∈ (lockAsked (link.recording server now disk) s).remote.exchanges) :
    (∀ handle, ¬ x.Asks link s.chain.object (.unlock handle)) ∧
      ∀ handle, x.Grants link s.chain.object handle →
        (s.routed .stateful).answer (link.recording server now disk) .lock = .ok handle ∨
          GrantLost link server now disk s := by
  have hasked : Link.AskedRun link server now disk .lock (s.routed .stateful) :=
    Link.askedRun link server now disk rfl untimed
  obtain ⟨xs, hxs, hown⟩ := hasked.exchanged
  have hmem : x ∈ (s.routed .stateful).remote.exchanges ++ xs := hxs ▸ hx
  have hfresh : (s.routed .stateful).remote.exchanges = [] := fresh
  rw [hfresh, List.nil_append] at hmem
  refine ⟨fun handle hunlock => ?_, fun handle hgrants => ?_⟩
  · rcases hown x hmem with hfetch | ⟨hlock, -⟩
    · exact hunlock.not_fetch rfl hfetch
    · exact hlock.not_unlock hunlock
  · obtain ⟨hlock, response, hread, hsuccess, hhandle⟩ := hgrants
    have hgranted : Call.granted response = .ok handle := by
      unfold Call.granted
      rw [hhandle]
    rcases hown x hmem with hfetch | ⟨-, hconclude⟩
    · exact absurd hfetch (hlock.not_fetch rfl)
    · rcases hconclude response hread hsuccess with hanswer | hlost
      · exact .inl (hanswer.trans hgranted)
      · exact .inr hlost

/-- What is exchanged for a release grants no lock. -/
theorem mem_exchanges_of_grants {released : String} (untimed : s.chain.options.stepLimit = none)
    {x : WireExchange}
    (hx : x ∈ (s.asked (link.recording server now disk) (.unlock released)).remote.exchanges)
    (h : x.Grants link s.chain.object handle) : x ∈ s.remote.exchanges := by
  have hasked : Link.AskedRun link server now disk (.unlock released) s :=
    Link.askedRun link server now disk rfl untimed
  obtain ⟨xs, hxs, hown⟩ := hasked.exchanged
  rw [hxs] at hx
  rcases List.mem_append.1 hx with hx | hx
  · exact hx
  · obtain ⟨hlock, -⟩ := h
    rcases hown x hx with hfetch | ⟨hunlock, -⟩
    · exact absurd hfetch (hlock.not_fetch rfl)
    · exact absurd hunlock hlock.not_unlock

/-- What was exchanged when a lock that could not be recorded is given up: if it grants a lock, it was
there before. -/
theorem ReleaseRun.mem_exchanges {s' : Scene (Line (ρ × List WireExchange))} {released : String}
    (h : ReleaseRun (link.recording server now disk) released s s')
    (untimed : s.chain.options.stepLimit = none) {x : WireExchange}
    (hx : x ∈ s'.remote.exchanges) (hgrants : x.Grants link s.chain.object handle) :
    x ∈ s.remote.exchanges := by
  cases h with
  | released => exact mem_exchanges_of_grants untimed hx hgrants
  | kept => exact mem_exchanges_of_grants untimed hx hgrants

/-- A lock that could not be recorded is released, or its handle is kept. -/
theorem ReleaseRun.accounted {s' : Scene (Line (ρ × List WireExchange))}
    (h : ReleaseRun (link.recording server now disk) handle s s')
    (untimed : s.chain.options.stepLimit = none) (result : Except Failure String) :
    Accounted link handle (result, s') := by
  cases h with
  | released answer =>
    have hasked : Link.AskedRun link server now disk (.unlock handle) s :=
      Link.askedRun link server now disk rfl untimed
    obtain ⟨x, hx, hasks, hsucceeds⟩ := hasked.released answer
    exact .released hx hasks hsucceeds
  | kept => exact .known rfl

/-- **What becomes of a granted lock.** Whatever the server, the disk and the registry do: a lock
that the server granted is held and recorded, released again, or known to the chain, just if it was
not lost or the chain held the same handle before. A lost grant leaves neither handle nor record. -/
theorem grant_accounted_iff (link : Link) (server : Server ρ) (now : Instant) (disk : Disk ρ)
    (s : Scene (Line ρ)) (handle : String) (untimed : s.chain.options.stepLimit = none)
    (granted : ∃ x ∈ ((lock (link.recording server now disk)).perform s.recorded).2.remote.exchanges,
      x.Grants link s.chain.object handle) :
    (Accounted link handle ((lock (link.recording server now disk)).perform s.recorded) ↔
        ¬ GrantLost link server now disk s.recorded ∨ s.chain.handle = some handle) ∧
      (GrantLost link server now disk s.recorded →
        ∃ e left, (lock (link.peer server now disk)).perform s = (.error e, left) ∧
          left.chain.handle = s.chain.handle ∧ left.registry = s.registry) := by
  -- By the ways in which a lock can end. Only a refused one loses the grant: in every other case the
  -- chain got a handle, and of what was exchanged nothing but that call grants a lock.
  obtain ⟨x, hx, hgrants⟩ := granted
  have hrun := lock_run (link.recording server now disk) s.recorded
  have hplain : (lock (link.peer server now disk)).perform s = _ :=
    lock_plain link server now disk (s := s.recorded) untimed
  generalize (lock (link.recording server now disk)).perform s.recorded = out
    at hrun hplain hx ⊢
  have hexchanged : ∀ y ∈ (lockAsked (link.recording server now disk) s.recorded).remote.exchanges,
      (∀ handle, ¬ y.Asks link s.chain.object (.unlock handle)) ∧
        ∀ handle, y.Grants link s.chain.object handle →
          (s.recorded.routed .stateful).answer (link.recording server now disk) .lock =
              .ok handle ∨
            GrantLost link server now disk s.recorded :=
    fun y hy => lockAsked_exchanged (s := s.recorded) untimed rfl hy
  cases hrun with
  | rejected => cases hx
  | @refused next e order answer =>
    have hlost : GrantLost link server now disk s.recorded := by
      rcases (hexchanged x hx).2 handle hgrants with hanswer | hlost
      · rw [answer] at hanswer
        cases hanswer
      · exact hlost
    refine ⟨⟨fun h => ?_, fun h => ?_⟩, fun _ => ⟨e, _, hplain, rfl, rfl⟩⟩
    · cases h with
      | held result => cases result
      | released sent asks => exact absurd asks ((hexchanged _ sent).1 handle)
      | known handle_eq => exact .inr handle_eq
    · exact .known (h.resolve_left fun hkept => hkept hlost)
  | @unrecorded next granted e registry s' order answer written release =>
    have hkept := not_grantLost_of_answer answer
    have hmem := release.mem_exchanges untimed hx hgrants
    have hanswer := ((hexchanged x hmem).2 handle hgrants).resolve_right hkept
    obtain rfl : granted = handle := Except.ok.inj (answer.symm.trans hanswer)
    exact ⟨iff_of_true (release.accounted untimed _) (.inl hkept), fun hlost => absurd hlost hkept⟩
  | @recorded next granted registry order answer written =>
    have hkept := not_grantLost_of_answer answer
    have hanswer := ((hexchanged x hx).2 handle hgrants).resolve_right hkept
    obtain rfl : granted = handle := Except.ok.inj (answer.symm.trans hanswer)
    have hfound := find?_of_setRun written
    rw [Scene.record_key] at hfound
    exact ⟨iff_of_true (.held rfl hfound rfl rfl) (.inl hkept), fun hlost => absurd hlost hkept⟩

/-! ### A grant that is lost -/

/-- A server that answers everything with the grant of a lock and sets a cookie. -/
def granting : Server Unit where
  respond _ s :=
    (.answer 200 [("Set-Cookie", "b=2; path=/")]
      (Text.utf8Bytes "<LOCK_HANDLE>HANDLE1</LOCK_HANDLE>".toList) true, s)

/-- A disk that is full. -/
def fullDisk : Disk Unit :=
  ⟨fun s => (some .write, s)⟩

/-- A chain before its first step, over a session that has its token. -/
def readyScene : Scene (Line Unit) where
  chain := .new { kind := .objectClass, name := "ZCL_TEST" } "s1" {}
  registry := {}
  remote :=
    { session :=
        { id := "s1", token := some "TOKEN", createdAt := ⟨1700000000, 0⟩
          updatedAt := ⟨1700000000, 0⟩, pid := 7 }
      store := ⟨"sessions", .missing⟩
      server := () }
  now := ⟨1700000060, 0⟩
  pid := 7

/-- The link of the chain. -/
def plainLink : Link :=
  { baseUrl := "http://host" }

/-- The request for the lock of the chain's object. -/
def lockRequest : Except Failure Request :=
  Call.lock.request readyScene.chain.object

/-- Whether an exchange is the grant of the lock, by what was sent and what came back. -/
def isGrant (x : WireExchange) : Bool :=
  decide (lockRequest.bind (plainLink.wireRequest .stateful readyScene.remote.session) =
    .ok x.request) &&
  x.reply.response?.any fun r => r.isSuccess && lockHandle? r.data == some "HANDLE1"

theorem grants_of_isGrant {x : WireExchange} (h : isGrant x = true) :
    x.Grants plainLink readyScene.chain.object "HANDLE1" := by
  obtain ⟨hsent, hback⟩ := Bool.and_eq_true_iff.1 h
  refine ⟨?_, ?_⟩
  · cases hr : lockRequest with
    | error e =>
      rw [hr] at hsent
      cases of_decide_eq_true hsent
    | ok r =>
      rw [hr] at hsent
      exact ⟨r, hr, .stateful, readyScene.remote.session, of_decide_eq_true hsent⟩
  · cases hread : x.reply.response? with
    | none =>
      rw [hread] at hback
      cases hback
    | some response =>
      rw [hread] at hback
      obtain ⟨hsuccess, hhandle⟩ := Bool.and_eq_true_iff.1 hback
      exact ⟨response, rfl, hsuccess, eq_of_beq hhandle⟩

theorem readyScene_granted :
    ∃ x ∈ ((lock (plainLink.recording granting ⟨1700000060, 0⟩ fullDisk)).perform
        readyScene.recorded).2.remote.exchanges,
      x.Grants plainLink readyScene.chain.object "HANDLE1" := by
  have hany : ((lock (plainLink.recording granting ⟨1700000060, 0⟩ fullDisk)).perform
      readyScene.recorded).2.remote.exchanges.any isGrant = true := by decide +kernel
  obtain ⟨x, hx, hgrant⟩ := List.any_eq_true.1 hany
  exact ⟨x, hx, grants_of_isGrant hgrant⟩

/-- The answer that grants the lock cannot be saved: the handle is known to nobody. -/
theorem grant_lost_on_full_disk :
    readyScene.chain.options.stepLimit = none ∧
      (∃ x ∈ ((lock (plainLink.recording granting ⟨1700000060, 0⟩ fullDisk)).perform
          readyScene.recorded).2.remote.exchanges,
        x.Grants plainLink readyScene.chain.object "HANDLE1") ∧
      ¬ Accounted plainLink "HANDLE1"
        ((lock (plainLink.recording granting ⟨1700000060, 0⟩ fullDisk)).perform
          readyScene.recorded) := by
  have hlost : GrantLost plainLink granting ⟨1700000060, 0⟩ fullDisk readyScene.recorded := by
    refine ⟨.io "failed to write temporary file: <os>", ?_, ⟨"sessions", .missing⟩, some .write, ?_⟩
    · decide +kernel
    · decide +kernel
  refine ⟨rfl, readyScene_granted, fun haccounted => ?_⟩
  have hkept := (grant_accounted_iff plainLink granting ⟨1700000060, 0⟩ fullDisk readyScene "HANDLE1"
    rfl readyScene_granted).1.1 haccounted
  rcases hkept with hkept | hheld
  · exact hkept hlost
  · have hnone : readyScene.chain.handle = none := rfl
    rw [hnone] at hheld
    cases hheld

end Chain

end EditLock
