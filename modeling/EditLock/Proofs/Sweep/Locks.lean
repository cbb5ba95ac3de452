/-
# Which locks a sweep removes

A sweep goes through the rows that were scanned and removes those whose records it can read and that
are to go. A record stands for its row alone: the key that is made of it again is that of the row it
was read from. So a sweep leaves exactly the rows that it did not report.

Key definitions: `Row.record?`, `Row.goes`, `Registry.IsOrderly`.
Key theorems: `Registry.IsOrderly.isUnchanged_iff_eq`, `Sweeper.sweepScanned_rows`,
`Sweeper.sweepLocks_rows`.
-/
import Mathlib.Data.List.Nodup
import EditLock.Proofs.Registry.Rows
import EditLock.Sweep

namespace EditLock

namespace Row

/-- The record of a row, if it can be read. -/
-- Irreducible, as unification would else evaluate the decoding of a row.
@[irreducible]
def record? (row : Row) : Option LockRecord :=
  match row.decode with
  | .ok record => some record
  | .error _ => none

/-- Whether a row's record can be read and is to go. -/
def goes (p : LockRecord → Bool) (row : Row) : Bool :=
  row.record?.any p

variable {row : Row} {record : LockRecord} {p : LockRecord → Bool}

theorem record?_eq_some_iff : row.record? = some record ↔ row.decode = .ok record := by
  unfold record?
  cases row.decode <;> simp

theorem goes_eq (p : LockRecord → Bool) (row : Row) :
    row.goes p = (row.record?.filter p).isSome := by
  rw [goes, Option.isSome_filter]

theorem goes_of_decode (h : row.decode = .ok record) : row.goes p = p record := by
  rw [goes, record?_eq_some_iff.2 h]
  rfl

theorem goes_iff : row.goes p = true ↔ ∃ record, row.decode = .ok record ∧ p record = true := by
  unfold goes record?
  cases row.decode <;> simp

end Row

namespace Registry

/-- A registry that carries out every statement, with one row for each object, and whose rows were
written by setting locks as far as they can be read. -/
structure IsOrderly (r : Registry) : Prop where
  available : ∀ n, r.availability n = .available
  keyed : r.Keyed
  written : ∀ row ∈ r.rows, ∀ record, row.decode = .ok record →
    ∃ original : LockRecord, row = .ofRecord original

namespace IsOrderly

variable {r : Registry} {row other : Row} {record : LockRecord}

theorem filter (h : r.IsOrderly) (count : Nat) (q : Row → Bool) :
    (r.ran count (r.rows.filter q)).IsOrderly where
  available := h.available
  keyed := nodup_columns_filter h.keyed q
  written row hrow := h.written row (List.mem_filter.1 hrow).1

theorem nodup (h : r.IsOrderly) : r.rows.Nodup :=
  List.Nodup.of_map _ h.keyed

theorem columns_eq (h : r.IsOrderly) (hrow : row ∈ r.rows) (hdecode : row.decode = .ok record) :
    row.columns = Row.columnsOf record.key := by
  obtain ⟨original, rfl⟩ := h.written row hrow record hdecode
  rw [Row.key_of_decode hdecode (Row.columns_ofRecord original) rfl, Row.columns_ofRecord]

/-- **A record stands for the row it was read from**, and for no other. -/
theorem isUnchanged_iff_eq (h : r.IsOrderly) (hrow : row ∈ r.rows)
    (hdecode : row.decode = .ok record) (hother : other ∈ r.rows) :
    isUnchanged record other = true ↔ other = row := by
  have hcol := h.columns_eq hrow hdecode
  have ⟨hsession, hhandle⟩ := Row.decode_eq_ok hdecode
  constructor
  · intro hun
    simp only [isUnchanged, Bool.and_eq_true, beq_iff_eq] at hun
    exact List.inj_on_of_nodup_map h.keyed hother hrow (hun.1.1.trans hcol.symm)
  · rintro rfl
    simp [isUnchanged, hcol, hsession, hhandle]

theorem eq_of_decode (h : r.IsOrderly) (hrow : row ∈ r.rows) (hother : other ∈ r.rows)
    (hdecode : row.decode = .ok record) (hdecode' : other.decode = .ok record) : other = row :=
  List.inj_on_of_nodup_map h.keyed hother hrow
    ((h.columns_eq hother hdecode').trans (h.columns_eq hrow hdecode).symm)

/-- Removing a record that was read removes its row. -/
theorem removeIfUnchanged (h : r.IsOrderly) (hrow : row ∈ r.rows)
    (hdecode : row.decode = .ok record) :
    r.removeIfUnchanged record =
      (.ok true, r.ran 1 (r.rows.filter fun other => other != row)) := by
  have hany : r.rows.any (isUnchanged record) = true :=
    List.any_eq_true.2 ⟨row, hrow, (h.isUnchanged_iff_eq hrow hdecode hrow).2 rfl⟩
  have hfilter : r.rows.filter (fun other => !isUnchanged record other) =
      r.rows.filter fun other => other != row := by
    refine List.filter_congr fun other hother => ?_
    rw [Bool.eq_iff_iff, Bool.not_eq_true', bne_iff_ne, ← Bool.not_eq_true,
      h.isUnchanged_iff_eq hrow hdecode hother]
  have hwritable : r.Writable := h.available _
  unfold Registry.removeIfUnchanged
  rw [execute_of_writable _ hwritable, hany, hfilter]

end IsOrderly

theorem sorted_perm (rows : List Row) : (sorted rows).Perm rows :=
  List.mergeSort_perm rows _

end Registry

/-! ### The sweep -/

namespace Sweeper

open Registry

variable {p : LockRecord → Bool} {r : Registry} {record : LockRecord}

/-- The records that a sweep over some rows reports. -/
def reported (p : LockRecord → Bool) (rows : List Row) : List LockRecord :=
  rows.filterMap fun row => row.record?.filter p

theorem reported_cons_of_not {row : Row} {rows : List Row} (h : row.goes p = false) :
    reported p (row :: rows) = reported p rows := by
  rw [Row.goes_eq, Option.isSome_eq_false_iff, Option.isNone_iff_eq_none] at h
  unfold reported
  rw [List.filterMap_cons, h]

theorem reported_cons_of_goes {row : Row} {rows : List Row} (hrecord : row.record? = some record)
    (hp : p record = true) : reported p (row :: rows) = record :: reported p rows := by
  unfold reported
  rw [List.filterMap_cons, hrecord, Option.filter_some, if_pos hp]

/-- **A sweep over some rows removes those that are to go**, and no other. -/
theorem sweepScanned_rows (h : r.IsOrderly) {l : List Row} (hl : ∀ row ∈ l, row ∈ r.rows)
    (hnodup : l.Nodup) :
    (sweepScanned p (l.map Row.decode) r).1 = reported p l ∧
      (sweepScanned p (l.map Row.decode) r).2.rows =
        r.rows.filter (fun row => !(row ∈ l && row.goes p)) ∧
      (sweepScanned p (l.map Row.decode) r).2.IsOrderly := by
  induction l generalizing r with
  | nil =>
    refine ⟨rfl, (List.filter_eq_self.2 fun row _ => ?_).symm, h⟩
    simp
  | cons row l ih =>
    obtain ⟨hnew, hrest⟩ := List.nodup_cons.1 hnodup
    have hrow := hl row List.mem_cons_self
    have htail : ∀ other ∈ l, other ∈ r.rows := fun other hother =>
      hl other (List.mem_cons_of_mem row hother)
    -- a row that stays leaves the sweep to the rows after it
    have hstays (hgoes : row.goes p = false) :
        reported p (row :: l) = reported p l ∧
          r.rows.filter (fun other => !(other ∈ row :: l && other.goes p)) =
            r.rows.filter (fun other => !(other ∈ l && other.goes p)) := by
      refine ⟨reported_cons_of_not hgoes, List.filter_congr fun other _ => ?_⟩
      by_cases hsame : other = row
      · rw [hsame, hgoes, Bool.and_false, Bool.and_false]
      · simp [hsame]
    cases hdecode : row.decode with
    | error e =>
      have hgoes : row.goes p = false := Bool.eq_false_iff.2 fun hgo => by
        obtain ⟨record, hread, -⟩ := Row.goes_iff.1 hgo
        rw [hdecode] at hread
        cases hread
      rw [List.map_cons, hdecode, (hstays hgoes).1, (hstays hgoes).2]
      exact ih h htail hrest
    | ok record =>
      have hrecord := Row.record?_eq_some_iff.2 hdecode
      have hgoes : row.goes p = p record := Row.goes_of_decode hdecode
      rw [List.map_cons, hdecode]
      unfold sweepScanned
      by_cases hp : p record = true
      · rw [if_pos hp, h.removeIfUnchanged hrow hdecode]
        dsimp only
        have hleft : ∀ other ∈ l, other ∈ (r.ran 1 (r.rows.filter fun o => o != row)).rows :=
          fun other hother => List.mem_filter.2
            ⟨htail other hother, bne_iff_ne.2 fun heq => hnew (heq ▸ hother)⟩
        obtain ⟨hreported, hrows, horderly⟩ := ih (h.filter 1 _) hleft hrest
        refine ⟨?_, ?_, horderly⟩
        · rw [hreported, reported_cons_of_goes hrecord hp]
        · rw [hrows, ran_rows, List.filter_filter]
          refine List.filter_congr fun other _ => ?_
          by_cases hsame : other = row
          · simp [hsame, hgoes, hp]
          · simp [hsame]
      · have hp' : p record = false := Bool.eq_false_iff.2 hp
        rw [if_neg hp, (hstays (hgoes.trans hp')).1, (hstays (hgoes.trans hp')).2]
        exact ih h htail hrest

/-- **A sweep removes the rows whose records can be read and are to go**, and reports just these. -/
theorem sweepLocks_rows (h : r.IsOrderly) (p : LockRecord → Bool) :
    (sweepLocks p r).1 = .ok (reported p (sorted r.rows)) ∧
      (sweepLocks p r).2.rows = r.rows.filter (fun row => !row.goes p) ∧
      (sweepLocks p r).2.IsOrderly := by
  have hreadable : r.Readable := by
    rw [Readable, h.available]
    exact nofun
  have hscan : r.scan = (.ok ((sorted r.rows).map Row.decode), r.ran 1 r.rows) :=
    query_of_readable _ hreadable
  have hran : (r.ran 1 r.rows).IsOrderly := ⟨h.available, h.keyed, h.written⟩
  have hperm := sorted_perm r.rows
  obtain ⟨hreported, hrows, horderly⟩ := sweepScanned_rows (p := p) hran
    (fun row hrow => hperm.mem_iff.1 hrow) (hperm.symm.nodup h.nodup)
  unfold sweepLocks
  rw [hscan]
  dsimp only
  refine ⟨congrArg Except.ok hreported, ?_, horderly⟩
  rw [hrows, ran_rows]
  refine List.filter_congr fun row hrow => ?_
  simp [hperm.mem_iff.2 hrow]

end Sweeper

end EditLock
