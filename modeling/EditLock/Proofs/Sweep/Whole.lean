/-
# What a sweep knows of a session

A sweep does not decode the sessions that it looks at: it reads when a session was created and by
which process, and passes over the rest of the file. Where the file holds an object, whatever else
stands in it, this is what the decoded session would tell. A sweep that decodes every session it can
therefore removes the same sessions.

A session can also be stored as an array of its fields' values. It is loaded all the same, but only
the whole session tells what is in it: a sweep passes over it.

Key definitions: `SessionStore.holdsObject`, `SessionStore.wholeOrigin?`,
`Sweeper.sweepSessionsBy`, `SessionStore.ToldWhole`.
Key theorems: `SessionStore.origin?_of_load`, `SessionStore.wholeOrigin?_eq`,
`Sweeper.sweepSessions_eq`, `SessionStore.told_whole`.
-/
import EditLock.Proofs.Sweep.Sessions

namespace EditLock

/-! ### Origins -/

namespace SessionStore

/-- Whether the file of a session holds an object. -/
def holdsObject (s : SessionStore) (id : String) : Bool :=
  match s.readRecord id with
  | .ok (some text) => (Json.read? text).any Json.isObject
  | _ => false

/-- The origin that the whole session tells, where an object is decoded as one; elsewhere the
origin that can be read without it. -/
def wholeOrigin? (s : SessionStore) (id : String) : Option SessionOrigin :=
  match s.load id with
  | .ok (some session) => if s.holdsObject id then some session.origin else s.origin? id
  | _ => s.origin? id

variable {s : SessionStore} {id : String} {session : Session}

/-- A session that can be loaded is one whose text is read. -/
theorem exists_text_of_load (h : s.load id = .ok (some session)) :
    ∃ text v, s.readRecord id = .ok (some text) ∧ Json.read? text = some v ∧
      Session.ofJson? v = some session := by
  unfold load at h
  cases hread : s.readRecord id with
  | error e =>
    rw [hread] at h
    cases h
  | ok found =>
    cases found with
    | none =>
      rw [hread] at h
      cases h
    | some text =>
      rw [hread] at h
      dsimp only at h
      cases hsession : Session.read? text with
      | none =>
        rw [hsession] at h
        cases h
      | some found =>
        rw [hsession] at h
        obtain rfl : found = session := Option.some.inj (Except.ok.inj h)
        obtain ⟨v, hv, hfound⟩ := Option.bind_eq_some_iff.1 hsession
        exact ⟨text, v, rfl, hv, hfound⟩

/-- **The origin of a session that can be loaded is the session's**, and can be told just where the
file holds an object. -/
theorem origin?_of_load (h : s.load id = .ok (some session)) :
    s.origin? id = if s.holdsObject id then some session.origin else none := by
  obtain ⟨text, v, hread, hv, hsession⟩ := exists_text_of_load h
  have horigin : SessionOrigin.read? text = SessionOrigin.ofJson? v := by
    rw [SessionOrigin.read?, hv, Option.bind_some]
  have hobject : s.holdsObject id = v.isObject := by
    rw [holdsObject, hread]
    dsimp only
    rw [hv, Option.any_some]
  rw [origin?, hread]
  dsimp only
  rw [horigin, hobject, SessionOrigin.ofJson?_eq hsession]

/-- The whole session tells nothing that could not be told without it. -/
theorem wholeOrigin?_eq : wholeOrigin? = origin? := by
  funext s id
  unfold wholeOrigin?
  split
  · rename_i session hload
    rw [origin?_of_load hload]
    split_ifs <;> rfl
  · rfl

theorem metadata_of_load (hobject : s.holdsObject id = true)
    (h : s.load id = .ok (some session)) (now : Instant) :
    s.metadata id now = .ok (some ⟨session.origin, session.ageMillis now⟩) := by
  refine metadata_of_origin ?_ now
  rw [origin?_of_load h, if_pos hobject]

theorem exists_metadata_iff (h : s.load id = .ok (some session)) (now : Instant) :
    (∃ found, s.metadata id now = .ok (some found)) ↔ s.holdsObject id = true := by
  constructor
  · rintro ⟨found, hfound⟩
    by_contra hobject
    have hnone : s.origin? id = none := by rw [origin?_of_load h, if_neg hobject]
    exact metadata_of_none hnone now found hfound
  · exact fun hobject => ⟨_, metadata_of_load hobject h now⟩

theorem isFound_of_load (hobject : s.holdsObject id = true) (h : s.load id = .ok (some session))
    (p : SessionOrigin → Bool) : s.isFound p id = p session.origin := by
  rw [isFound, origin?_of_load h, if_pos hobject, Option.any_some]

end SessionStore

/-! ### Sweeps -/

namespace Sweeper

/-- Removes the sessions of a list whose origin is told and is one to be removed; gives the removed
ones. -/
def sweepIdsBy (origin? : SessionStore → String → Option SessionOrigin)
    (shouldRemove : SessionOrigin → Bool) : List String → SessionStore → List String × SessionStore
  | [], s => ([], s)
  | id :: ids, s =>
    if (origin? s id).any shouldRemove then
      afterDelete id (sweepIdsBy origin? shouldRemove ids) (s.delete id)
    else sweepIdsBy origin? shouldRemove ids s

/-- A sweep of all sessions, by the origins that are told. -/
def sweepSessionsBy (origin? : SessionStore → String → Option SessionOrigin)
    (shouldRemove : SessionOrigin → Bool) (s : SessionStore) :
    Except Failure (List String) × SessionStore :=
  match s.list with
  | .error e => (.error e, s)
  | .ok ids => (.ok (sweepIdsBy origin? shouldRemove ids s).1,
      (sweepIdsBy origin? shouldRemove ids s).2)

theorem sweepIds_eq (w : Sweeper) (p : SessionOrigin → Bool) (ids : List String) :
    w.sweepIds p ids = sweepIdsBy SessionStore.origin? p ids := by
  induction ids with
  | nil => rfl
  | cons id ids ih =>
    funext s
    rw [sweepIds_cons, sweepIdsBy, SessionStore.isFound, ih]

/-- A sweep goes by the origins that can be read. -/
theorem sweepSessions_eq (w : Sweeper) (p : SessionOrigin → Bool) (s : SessionStore) :
    w.sweepSessions p s = sweepSessionsBy SessionStore.origin? p s := by
  unfold sweepSessions sweepSessionsBy
  cases s.list with
  | error e => rfl
  | ok ids =>
    dsimp only
    rw [sweepIds_eq]

end Sweeper

/-- What is told of the sessions of a store without decoding them is what the sessions tell. -/
structure SessionStore.ToldWhole (s : SessionStore) : Prop where
  /-- Of a session that can be loaded, from an object, all is told as the session has it. -/
  told : ∀ id session, s.holdsObject id = true → s.load id = .ok (some session) →
    ∀ now, s.metadata id now = .ok (some ⟨session.origin, session.ageMillis now⟩)
  /-- Just from an object a session's origin is told. -/
  told_iff : ∀ id session, s.load id = .ok (some session) →
    ∀ now, (∃ found, s.metadata id now = .ok (some found)) ↔ s.holdsObject id = true
  /-- A sweep that comes to such a session never passes over it as one that cannot be read: it
  deletes the session if the session's own origin is one to be removed, and only then. -/
  decided : ∀ id session, s.holdsObject id = true → s.load id = .ok (some session) →
    ∀ (w : Sweeper) (p : SessionOrigin → Bool) (ids : List String),
      w.sweepIds p (id :: ids) s =
        if p session.origin then Sweeper.afterDelete id (w.sweepIds p ids) (s.delete id)
        else w.sweepIds p ids s
  /-- Sweeps remove what they would remove if they decoded every session they can. -/
  stale : ∀ w : Sweeper, w.staleSessions s =
    Sweeper.sweepSessionsBy wholeOrigin? (fun origin => w.isStale origin.createdAt) s
  dead : ∀ w : Sweeper, w.deadSessions s =
    Sweeper.sweepSessionsBy wholeOrigin? (fun origin => w.probe origin.pid == .dead) s

/-- **A sweep decides about the sessions as if it had decoded them**, whatever is in the store. -/
theorem SessionStore.told_whole (s : SessionStore) : s.ToldWhole where
  told _ _ hobject hload := metadata_of_load hobject hload
  told_iff _ _ hload := exists_metadata_iff hload
  decided id session hobject hload w p ids := by
    rw [Sweeper.sweepIds_cons, isFound_of_load hobject hload]
  stale w := by rw [Sweeper.staleSessions, Sweeper.sweepSessions_eq, wholeOrigin?_eq]
  dead w := by rw [Sweeper.deadSessions, Sweeper.sweepSessions_eq, wholeOrigin?_eq]

/-- An object with a field that is unknown, the others in an order of their own and some missing:
what is told is what the session would tell. -/
example :
    let text := "\x7b\"owner_pid\":7,\"x\":[\x7b\"created_at\":[]\x7d],\"session_id\":\"s1\"," ++
      "\"updated_at\":\"2024-01-01T00:00:00Z\",\"created_at\":\"1970-01-01T00:00:10Z\"\x7d"
    let s : SessionStore := ⟨"sessions", .present [("s1.json", .text text)]⟩
    (s.load "s1").map (Option.map Session.origin) = .ok (some ⟨⟨10, 0⟩, 7⟩) ∧
      s.metadata "s1" ⟨12, 0⟩ = .ok (some ⟨⟨⟨10, 0⟩, 7⟩, 2000⟩) := by
  decide +kernel

end EditLock
