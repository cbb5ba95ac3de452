/-
# Sweeps with two thresholds

What is stale after a longer time is stale after a shorter time as well. A sweep with the longer
threshold therefore removes nothing that one with the shorter threshold leaves, whatever is stored:
sessions may be reached by links from other sessions, and rows may stand under other keys than those
of their records.

For sessions the two sweeps are carried along side by side. The one that removes more has left every
entry from which the other can still read a session to be removed (`Directory.Keeps`), so that it
finds whatever the other finds. For locks it is enough to know which records go: each takes away the
rows with its key, its session and its handle, and more records take away more rows.

Key definitions: `SessionStore.KeepsFound`, `LockRecord.IsSameLock`, `Registry.leftBy`,
`Registry.takenBy`, `Sweeper.SweepsMore`.
Key theorems: `Sweeper.sweepIds_sublist`, `Sweeper.sweepLocks_eq`, `Sweeper.sweepsMore_of_le`.
-/
import EditLock.Proofs.Sweep.Locks
import EditLock.Proofs.Sweep.Sessions
import EditLock.Proofs.Upkeep.Secrets

namespace EditLock

/-! ### Sessions -/

namespace SessionStore

/-- The other store still has every entry from which a session as asked for is read. -/
def KeepsFound (p : SessionOrigin → Bool) (s t : SessionStore) : Prop :=
  Directory.Keeps (fun text => (SessionOrigin.read? text).any p = true) s.dir t.dir

variable {s t : SessionStore} {p q : SessionOrigin → Bool} {id : String}

theorem KeepsFound.refl (p : SessionOrigin → Bool) (s : SessionStore) : s.KeepsFound p s :=
  Directory.Keeps.refl _ s.dir

theorem KeepsFound.isFound (h : s.KeepsFound q t) (hfound : s.isFound q id = true) :
    t.isFound q id = true := by
  obtain ⟨hvalid, text, hread, horigin⟩ := isFound_iff_read.1 hfound
  exact isFound_iff_read.2 ⟨hvalid, text, Directory.Keeps.read h hread horigin, horigin⟩

theorem KeepsFound.without (h : s.KeepsFound p t) (names : List String) :
    (s.without names).KeepsFound p (t.without names) :=
  Directory.Keeps.without h _

/-- A session that is not found is not missed. -/
theorem KeepsFound.without_right (h : s.KeepsFound q t) (hvalid : isValidId id = true)
    (hleft : s.isFound q id = false) : s.KeepsFound q (t.without [id]) := by
  refine Directory.Keeps.without_right h fun text hread horigin => ?_
  rw [isFound_iff_read.2 ⟨hvalid, text, hread, horigin⟩] at hleft
  cases hleft

theorem isFound_mono (h : ∀ origin, q origin = true → p origin = true)
    (hfound : s.isFound q id = true) : s.isFound p id = true := by
  obtain ⟨origin, horigin, hq⟩ := isFound_iff.1 hfound
  exact isFound_iff.2 ⟨origin, horigin, h origin hq⟩

end SessionStore

namespace Sweeper

open SessionStore

section Sessions

variable {p q : SessionOrigin → Bool} {w w' : Sweeper}

/-- **What one sweep removes the other removes**, if it looks for more and still has what the first
one finds. -/
theorem sweepIds_sublist (hpq : ∀ origin, q origin = true → p origin = true) (ids : List String)
    {s t : SessionStore} (h : s.KeepsFound q t) :
    ((w'.sweepIds q ids s).1).Sublist (w.sweepIds p ids t).1 := by
  induction ids generalizing s t with
  | nil => exact .slnil
  | cons id ids ih =>
    cases hq : s.isFound q id with
    | true =>
      have hp : t.isFound p id = true := isFound_mono hpq (h.isFound hq)
      rw [sweepIds_cons_of_found w' hq, sweepIds_cons_of_found w hp]
      exact (ih (h.without [id])).cons_cons id
    | false =>
      rw [sweepIds_cons_of_not w' hq]
      cases hp : t.isFound p id with
      | true =>
        rw [sweepIds_cons_of_found w hp]
        have hvalid := (isFound_iff_read.1 hp).1
        exact (ih (h.without_right hvalid hq)).cons id
      | false =>
        rw [sweepIds_cons_of_not w hp]
        exact ih h

theorem sweepSessions_sublist (hpq : ∀ origin, q origin = true → p origin = true)
    (s : SessionStore) :
    EndsLike List.Sublist (w'.sweepSessions q s).1 (w.sweepSessions p s).1 := by
  unfold sweepSessions
  cases s.list with
  | error e => exact .error e
  | ok ids => exact .ok (sweepIds_sublist hpq ids (.refl q s))

end Sessions

end Sweeper

/-! ### Locks -/

/-- Records of one object under one session with one handle: a sweep takes them for each other. -/
def LockRecord.IsSameLock (r r' : LockRecord) : Prop :=
  r'.key = r.key ∧ r'.session = r.session ∧ r'.handle = r.handle

/-- The locks of some records are among those of others. -/
def LocksAmong (fewer more : List LockRecord) : Prop :=
  ∀ record ∈ fewer, ∃ other ∈ more, record.IsSameLock other

namespace Registry

/-- Every statement is carried out. -/
def IsAvailable (r : Registry) : Prop :=
  ∀ n, r.availability n = .available

/-- The rows without those that one of the records takes away. -/
def leftBy (records : List LockRecord) (rows : List Row) : List Row :=
  rows.filter fun row => !records.any fun record => isUnchanged record row

/-- The records that take a row away, one after the other. -/
def takenBy : List LockRecord → List Row → List LockRecord
  | [], _ => []
  | record :: rest, rows =>
    (if rows.any (isUnchanged record) then [record] else []) ++ takenBy rest (leftBy [record] rows)

variable {r : Registry} {row : Row} {rows : List Row} {record record' : LockRecord}
  {records : List LockRecord}

theorem leftBy_nil (rows : List Row) : leftBy [] rows = rows :=
  List.filter_eq_self.2 fun _ _ => rfl

theorem leftBy_cons (record : LockRecord) (rest : List LockRecord) (rows : List Row) :
    leftBy (record :: rest) rows = leftBy rest (leftBy [record] rows) := by
  unfold leftBy
  rw [List.filter_filter]
  simp only [List.any_cons, List.any_nil, Bool.or_false, Bool.not_or, Bool.and_comm]

/-- More records leave fewer rows. -/
theorem leftBy_sublist {more : List LockRecord} (h : records ⊆ more) (rows : List Row) :
    (leftBy more rows).Sublist (leftBy records rows) := by
  refine List.monotone_filter_right _ fun row hleft => ?_
  rw [Bool.not_eq_true'] at hleft ⊢
  rw [List.any_eq_false] at hleft ⊢
  exact fun record hrecord => hleft record (h hrecord)

/-- A record that takes a row away is one of those that were given. -/
theorem exists_row_of_mem_takenBy (h : record ∈ takenBy records rows) :
    record ∈ records ∧ ∃ row ∈ rows, isUnchanged record row = true := by
  induction records generalizing rows with
  | nil => cases h
  | cons first rest ih =>
    rcases List.mem_append.1 h with hhere | hlater
    · split_ifs at hhere with hany
      · rw [List.mem_singleton.1 hhere]
        exact ⟨List.mem_cons_self, List.any_eq_true.1 hany⟩
      · cases hhere
    · obtain ⟨hrest, row, hrow, htakes⟩ := ih hlater
      exact ⟨List.mem_cons_of_mem _ hrest, row, (List.mem_filter.1 hrow).1, htakes⟩

/-- A row for which there is a record is taken away by one. -/
theorem exists_mem_takenBy (hrow : row ∈ rows) (hrecord : record ∈ records)
    (htakes : isUnchanged record row = true) :
    ∃ other ∈ takenBy records rows, isUnchanged other row = true := by
  induction records generalizing rows with
  | nil => cases hrecord
  | cons first rest ih =>
    cases hfirst : isUnchanged first row with
    | true =>
      have hany : rows.any (isUnchanged first) = true := List.any_eq_true.2 ⟨row, hrow, hfirst⟩
      rw [takenBy, if_pos hany]
      exact ⟨first, List.mem_append_left _ List.mem_cons_self, hfirst⟩
    | false =>
      have hleft : row ∈ leftBy [first] rows := List.mem_filter.2 ⟨hrow, by simp [hfirst]⟩
      have hrest : record ∈ rest := by
        refine (List.mem_cons.1 hrecord).resolve_left ?_
        rintro rfl
        rw [hfirst] at htakes
        cases htakes
      obtain ⟨other, hother, hgone⟩ := ih hleft hrest
      exact ⟨other, List.mem_append_right _ hother, hgone⟩

/-- Records that take the same row away are records of one lock. -/
theorem isSameLock_of_isUnchanged (h : isUnchanged record row = true)
    (h' : isUnchanged record' row = true) : record.IsSameLock record' := by
  simp only [isUnchanged, Bool.and_eq_true, beq_iff_eq] at h h'
  obtain ⟨⟨hcolumns, hsession⟩, hhandle⟩ := h
  obtain ⟨⟨hcolumns', hsession'⟩, hhandle'⟩ := h'
  have hkey : record'.key = record.key :=
    (Row.columnsOf_inj (Key.subKey_ne_empty rfl) (Key.subKey_ne_empty rfl)).1
      (hcolumns'.symm.trans hcolumns)
  exact ⟨hkey, hsession'.symm.trans hsession, hhandle'.symm.trans hhandle⟩

/-- The locks of more records are more. -/
theorem locksAmong_takenBy {more : List LockRecord} (h : records ⊆ more) (rows : List Row) :
    LocksAmong (takenBy records rows) (takenBy more rows) := by
  intro record hrecord
  obtain ⟨hmem, row, hrow, htakes⟩ := exists_row_of_mem_takenBy hrecord
  obtain ⟨other, hother, hgone⟩ := exists_mem_takenBy hrow (h hmem) htakes
  exact ⟨other, hother, isSameLock_of_isUnchanged htakes hgone⟩

end Registry

namespace Sweeper

open Registry

section Locks

variable {p q : LockRecord → Bool} {r : Registry}

/-- A row whose record is not to go is passed over. -/
theorem sweepScanned_cons_of_not {row : Row} (hgoes : row.goes p = false)
    (scanned : List (Except Failure LockRecord)) (r : Registry) :
    sweepScanned p (row.decode :: scanned) r = sweepScanned p scanned r := by
  cases hdecode : row.decode with
  | error e => rfl
  | ok record =>
    rw [Row.goes_of_decode hdecode] at hgoes
    rw [sweepScanned, if_neg (Bool.eq_false_iff.1 hgoes)]

/-- **A sweep over some rows** takes rows away with the records that are to go. -/
theorem sweepScanned_eq (p : LockRecord → Bool) (l : List Row) (h : r.IsAvailable) :
    (sweepScanned p (l.map Row.decode) r).1 = takenBy (reported p l) r.rows ∧
      (sweepScanned p (l.map Row.decode) r).2.rows = leftBy (reported p l) r.rows := by
  induction l generalizing r with
  | nil => exact ⟨rfl, (leftBy_nil r.rows).symm⟩
  | cons row l ih =>
    rw [List.map_cons]
    cases hgoes : row.goes p with
    | false =>
      rw [sweepScanned_cons_of_not hgoes, reported_cons_of_not hgoes]
      exact ih h
    | true =>
      obtain ⟨record, hdecode, hp⟩ := Row.goes_iff.1 hgoes
      have hremove : r.removeIfUnchanged record = (.ok (r.rows.any (isUnchanged record)),
          r.ran 1 (leftBy [record] r.rows)) := by
        unfold removeIfUnchanged
        rw [execute_of_writable _ (h _)]
        simp only [leftBy, List.any_cons, List.any_nil, Bool.or_false]
      obtain ⟨htaken, hleft⟩ := ih (r := r.ran 1 (leftBy [record] r.rows)) h
      rw [hdecode, sweepScanned, if_pos hp, hremove,
        reported_cons_of_goes (Row.record?_eq_some_iff.2 hdecode) hp, takenBy,
        leftBy_cons record (reported p l) r.rows]
      cases r.rows.any (isUnchanged record) with
      | true => exact ⟨congrArg (record :: ·) htaken, hleft⟩
      | false => exact ⟨htaken, hleft⟩

/-- A sweep of a registry that carries out every statement. -/
theorem sweepLocks_eq (p : LockRecord → Bool) (h : r.IsAvailable) :
    (sweepLocks p r).1 = .ok (takenBy (reported p (sorted r.rows)) r.rows) ∧
      (sweepLocks p r).2.rows = leftBy (reported p (sorted r.rows)) r.rows := by
  have hreadable : r.Readable := by
    rw [Readable, h]
    decide
  have hran : (r.ran 1 r.rows).IsAvailable := h
  obtain ⟨htaken, hleft⟩ := sweepScanned_eq p (sorted r.rows) hran
  unfold sweepLocks scan
  rw [query_of_readable _ hreadable]
  exact ⟨congrArg Except.ok htaken, hleft⟩

theorem reported_sublist (hpq : ∀ record, q record = true → p record = true) (rows : List Row) :
    (reported q rows).Sublist (reported p rows) := by
  induction rows with
  | nil => exact .slnil
  | cons row rows ih =>
    unfold reported at ih ⊢
    rw [List.filterMap_cons, List.filterMap_cons]
    cases row.record? with
    | none => exact ih
    | some record =>
      rw [Option.filter_some, Option.filter_some]
      cases hq : q record with
      | true =>
        rw [hpq record hq]
        exact ih.cons_cons record
      | false =>
        cases p record with
        | true => exact ih.cons record
        | false => exact ih

/-- **The rows that a sweep takes away are taken away by one that looks for more.** -/
theorem sweepLocks_left (hpq : ∀ record, q record = true → p record = true)
    (h : r.IsAvailable) : ((sweepLocks p r).2.rows).Sublist (sweepLocks q r).2.rows := by
  rw [(sweepLocks_eq p h).2, (sweepLocks_eq q h).2]
  exact leftBy_sublist (reported_sublist hpq _).subset r.rows

/-- The locks that a sweep reports are reported by one that looks for more. -/
theorem sweepLocks_reported (hpq : ∀ record, q record = true → p record = true)
    (h : r.IsAvailable) : EndsLike LocksAmong (sweepLocks q r).1 (sweepLocks p r).1 := by
  rw [(sweepLocks_eq p h).1, (sweepLocks_eq q h).1]
  exact .ok (locksAmong_takenBy (reported_sublist hpq _).subset r.rows)

end Locks

/-! ### Thresholds -/

/-- What the other sweeper removes this one removes, from any store and any registry. -/
structure SweepsMore (w w' : Sweeper) : Prop where
  sessions : ∀ s, EndsLike List.Sublist (w'.staleSessions s).1 (w.staleSessions s).1
  /-- The rows that this one leaves are left by the other one. -/
  rows : ∀ r : Registry, r.IsAvailable →
    ((w.staleLocks r).2.rows).Sublist (w'.staleLocks r).2.rows
  /-- The locks that the other one reports are reported. -/
  locks : ∀ r : Registry, r.IsAvailable →
    EndsLike LocksAmong (w'.staleLocks r).1 (w.staleLocks r).1
  /-- Where each record stands under its own key, these are the same records. -/
  records : ∀ r : Registry, r.IsOrderly →
    EndsLike List.Sublist (w'.staleLocks r).1 (w.staleLocks r).1

theorem isStale_mono {w w' : Sweeper} (hnow : w'.now = w.now)
    (hle : w.staleAfter ≤ w'.staleAfter) (since : Instant) (h : w'.isStale since = true) :
    w.isStale since = true := by
  unfold isStale at h ⊢
  rw [hnow] at h
  exact decide_eq_true (lt_of_le_of_lt hle (of_decide_eq_true h))

/-- **With a longer threshold no more is removed.** -/
theorem sweepsMore_of_le {w w' : Sweeper} (hnow : w'.now = w.now)
    (hle : w.staleAfter ≤ w'.staleAfter) : w.SweepsMore w' where
  sessions s := sweepSessions_sublist (fun _ => isStale_mono hnow hle _) s
  rows r h := sweepLocks_left (fun _ => isStale_mono hnow hle _) h
  locks r h := sweepLocks_reported (fun _ => isStale_mono hnow hle _) h
  records r h := by
    unfold staleLocks
    rw [(sweepLocks_rows h _).1, (sweepLocks_rows h _).1]
    exact .ok (reported_sublist (fun _ => isStale_mono hnow hle _) _)

end Sweeper

end EditLock
