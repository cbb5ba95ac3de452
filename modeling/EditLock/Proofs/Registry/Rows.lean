/-
# What the statements of the registry do to its rows

The registry finds the row of a key. A record is written under its own key and changes the row of
no other key; the row of another session it leaves alone (`SetRun`). A record that is removed is
gone, and the row of a key that does not name the record's session and handle stays
(`RemoveRun`). A look-up changes no row (`GetRun`). A statement that fails changes nothing. No
statement brings a second row of one object into the table (`Keyed`).

Key definitions: `Registry.Keyed`, `Registry.SetRun`, `Registry.GetRun`, `Registry.RemoveRun`.
Key theorems: `Registry.setRun`, `Registry.getRun`, `Registry.removeRun`,
`Registry.find?_upsert_self`, `Registry.find?_upsert_of_session_ne`,
`Registry.find?_remove_of_not_isUnchanged`, `Registry.find?_of_removeRun_ok`,
`Registry.SetRun.keyed`, `Registry.RemoveRun.keyed`, `Row.key_of_decode`, `Row.decode_ofRecord`.
-/
import Mathlib.Data.List.Nodup
import EditLock.Proofs.Object.Key
import EditLock.Proofs.Time.Reading
import EditLock.Registry.Table

namespace EditLock

@[simp] theorem Row.columns_ofRecord (record : LockRecord) :
    (Row.ofRecord record).columns = Row.columnsOf record.key := rfl

@[simp] theorem Row.session_ofRecord (record : LockRecord) :
    (Row.ofRecord record).session = record.session := rfl

@[simp] theorem Row.handle_ofRecord (record : LockRecord) :
    (Row.ofRecord record).handle = record.handle := rfl

/-- A record that was read from a row has the row's session and handle. -/
theorem Row.decode_eq_ok {row : Row} {record : LockRecord} (h : row.decode = .ok record) :
    record.session = row.session ∧ record.handle = row.handle := by
  unfold Row.decode at h
  split at h
  · cases h
  · cases h
  · split at h
    · cases h
    · cases h
      exact ⟨rfl, rfl⟩

/-- A record that was read from the row under a key stands under that key. -/
theorem Row.key_of_decode {row : Row} {record : LockRecord} (h : row.decode = .ok record)
    {k : Key} (hc : row.columns = Row.columnsOf k) {kind : Kind} {name : String}
    {subKey : Option String} (hk : k = .make kind name subKey) : record.key = k := by
  have hkind : row.kind = k.kind.name := congrArg Prod.fst hc
  have hname : row.name = k.name := congrArg (·.2.1) hc
  have hsub : row.subKey = k.subKeyColumn := congrArg (·.2.2) hc
  have hparent : (if row.subKey.isEmpty then none else some row.subKey) = k.subKey := by
    rw [hsub]
    exact Key.subKey_of_column hk
  unfold Row.decode at h
  rw [hkind, Kind.parse_name] at h
  split at h
  · cases h
  · cases h
  · split at h
    · cases h
    · rename_i hparsed _ _
      cases hparsed
      cases h
      show Key.make k.kind row.name _ = k
      rw [hname, hparent]
      exact Key.make_self hk

/-- **A record that was written is read back**, if the time has a four-digit year and the process
number fits its column. -/
theorem Row.decode_ofRecord {record : LockRecord} (civil : record.acquiredAt.IsCivil)
    (pid : record.pid ≤ Json.maxPid) : (Row.ofRecord record).decode =
      .ok (.make record.key record.session record.handle record.acquiredAt record.pid) := by
  have hkey : record.key = .make record.kind record.name record.subKey := rfl
  have hparent := Key.subKey_of_column hkey
  have hkind : Kind.parse (ofRecord record).kind = .ok record.key.kind := Kind.parse_name _
  have htime : Instant.readStrict? (ofRecord record).acquiredAt = some record.acquiredAt :=
    Instant.readStrict?_toText civil
  have hpid : ¬ ((record.pid : Int) < 0 || (Json.maxPid : Int) < record.pid) = true := by
    simp only [Bool.or_eq_true, decide_eq_true_eq]
    omega
  unfold decode
  rw [hkind, htime]
  refine (if_neg hpid).trans ?_
  have hsub : (if (ofRecord record).subKey.isEmpty then none else some (ofRecord record).subKey) =
      record.key.subKey := hparent
  rw [hsub]
  rfl

namespace Registry

/-- Each object has one row. -/
def Keyed (r : Registry) : Prop :=
  (r.rows.map Row.columns).Nodup

/-- The registry after a number of statements that left these rows. -/
def ran (r : Registry) (count : Nat) (rows : List Row) : Registry :=
  { r with rows, statements := r.statements + count }

@[simp] theorem ran_rows (r : Registry) (count : Nat) (rows : List Row) :
    (r.ran count rows).rows = rows := rfl

@[simp] theorem ran_statements (r : Registry) (count : Nat) (rows : List Row) :
    (r.ran count rows).statements = r.statements + count := rfl

@[simp] theorem ran_availability (r : Registry) (count : Nat) (rows : List Row) :
    (r.ran count rows).availability = r.availability := rfl

/-- The next statement may write. -/
def Writable (r : Registry) : Prop :=
  r.availability r.statements = .available

theorem execute_of_writable {α : Type} (f : List Row → α × List Row) {r : Registry}
    (h : r.Writable) : r.execute f = (.ok (f r.rows).1, r.ran 1 (f r.rows).2) := by
  unfold execute
  rw [show r.availability r.statements = .available from h]
  rfl

theorem execute_of_not_writable {α : Type} (f : List Row → α × List Row) {r : Registry}
    (h : ¬ r.Writable) : r.execute f = (.error engineFailure, r.ran 1 r.rows) := by
  unfold execute
  unfold Writable at h
  cases ha : r.availability r.statements with
  | available => exact absurd ha h
  | readOnly => rfl
  | unavailable => rfl

/-- The next statement may read. -/
def Readable (r : Registry) : Prop :=
  r.availability r.statements ≠ .unavailable

theorem query_of_readable {α : Type} (f : List Row → α) {r : Registry} (h : r.Readable) :
    r.query f = (.ok (f r.rows), r.ran 1 r.rows) := by
  unfold query
  unfold Readable at h
  cases ha : r.availability r.statements with
  | unavailable => exact absurd ha h
  | available => rfl
  | readOnly => rfl

theorem query_of_not_readable {α : Type} (f : List Row → α) {r : Registry} (h : ¬ r.Readable) :
    r.query f = (.error engineFailure, r.ran 1 r.rows) := by
  unfold query
  rw [show r.availability r.statements = .unavailable from not_not.mp h]
  rfl

/-! ### Rows under keys -/

theorem find?_eq_some {rows : List Row} {k : Key} {row : Row} (h : find? rows k = some row) :
    row ∈ rows ∧ row.columns = Row.columnsOf k :=
  ⟨List.mem_of_find?_eq_some h, by simpa using List.find?_some h⟩

/-- Where each object has one row, the row that is found is the only one. -/
theorem Keyed.eq_of_find? {r : Registry} (hr : r.Keyed) {k : Key} {row other : Row}
    (h : find? r.rows k = some row) (ho : other ∈ r.rows) (hc : other.columns = Row.columnsOf k) :
    other = row := by
  obtain ⟨hmem, hcol⟩ := find?_eq_some h
  exact List.inj_on_of_nodup_map hr ho hmem (hc.trans hcol.symm)

/-- Where each object has one row, that row is found. -/
theorem find?_eq_some_iff {rows : List Row} (keyed : (rows.map Row.columns).Nodup) {k : Key}
    {row : Row} : find? rows k = some row ↔ row ∈ rows ∧ row.columns = Row.columnsOf k := by
  refine ⟨find?_eq_some, fun ⟨hmem, hcol⟩ => ?_⟩
  cases hf : find? rows k with
  | none => exact absurd hcol (by simpa using List.find?_eq_none.1 hf row hmem)
  | some other =>
    obtain ⟨hmem', hcol'⟩ := find?_eq_some hf
    rw [List.inj_on_of_nodup_map keyed hmem' hmem (hcol'.trans hcol.symm)]

theorem find?_folded (rows : List Row) (k : Key) : find? rows k.folded = find? rows k := by
  rw [find?, Row.columnsOf_folded]
  rfl

/-- A row that belongs to another session is not written over. -/
theorem upsert_of_foreign {row old : Row} {rows : List Row} {k : Key}
    (hk : row.columns = Row.columnsOf k) (h : find? rows k = some old)
    (hs : old.session ≠ row.session) : upsert row rows = (false, rows) := by
  unfold find? at h
  rw [← hk] at h
  simp only [upsert, h, if_neg hs]

/-- Writing a row under one key changes nothing under another. -/
theorem find?_upsert_of_ne {row : Row} {k : Key} (hk : row.columns ≠ Row.columnsOf k)
    (rows : List Row) : find? (upsert row rows).2 k = find? rows k := by
  have hrow : (row.columns == Row.columnsOf k) = false := by simpa using hk
  unfold upsert
  split
  · simp [find?, List.find?_append, hrow]
  · split
    · unfold find?
      rw [List.find?_map]
      have hsame : (fun r : Row => r.columns == Row.columnsOf k) ∘
          (fun r => if r.columns == row.columns then row else r) =
            fun r => r.columns == Row.columnsOf k := by
        funext r
        by_cases hr : r.columns = row.columns
        · simp [hr, hrow]
        · simp [hr]
      rw [hsame]
      cases hf : rows.find? fun r => r.columns == Row.columnsOf k with
      | none => rfl
      | some found =>
        have hcol : found.columns = Row.columnsOf k := by simpa using List.find?_some hf
        have hne : found.columns ≠ row.columns := fun he => hk (he ▸ hcol)
        simp [hne]
    · rfl

/-- **A row that may be written is found.** It may be if the one there, if any, is of the same
session. -/
theorem find?_upsert_self {row : Row} {k : Key} {rows : List Row}
    (hk : row.columns = Row.columnsOf k)
    (hown : ∀ old, find? rows k = some old → old.session = row.session) :
    upsert row rows = (true, (upsert row rows).2) ∧ find? (upsert row rows).2 k = some row := by
  unfold find? at hown ⊢
  rw [← hk] at hown ⊢
  unfold upsert
  cases hf : rows.find? fun r => r.columns == row.columns with
  | none => simp [List.find?_append, hf]
  | some old =>
    have hcol : old.columns = row.columns := by simpa using List.find?_some hf
    simp only [hown old hf, if_true, true_and]
    rw [List.find?_map]
    have hsame : (fun r : Row => r.columns == row.columns) ∘
        (fun r => if r.columns == row.columns then row else r) =
          fun r => r.columns == row.columns := by
      funext r
      by_cases hr : r.columns = row.columns
      · simp [hr]
      · simp [hr]
    rw [hsame, hf]
    simp [hcol]

/-- What stands in the table after a row was written: the row, and what stood under other keys. -/
theorem mem_upsert {row other : Row} {rows : List Row} (hw : (upsert row rows).1 = true)
    (h : other ∈ (upsert row rows).2) : other = row ∨ other ∈ rows ∧ other.columns ≠ row.columns := by
  unfold upsert at hw h
  split at h
  · rename_i hnone
    rcases List.mem_append.mp h with hmem | hmem
    · exact .inr ⟨hmem, by simpa using List.find?_eq_none.mp hnone other hmem⟩
    · exact .inl (List.mem_singleton.mp hmem)
  · rename_i old hsome
    rw [hsome] at hw
    split at h
    · obtain ⟨r, hr, rfl⟩ := List.mem_map.mp h
      by_cases hc : r.columns = row.columns
      · simp [hc]
      · simp [hc, hr]
    · simp_all

/-- The row of another session stays as it is when a record is written. -/
theorem find?_upsert_of_session_ne {row found : Row} {rows : List Row} {k : Key}
    (h : find? rows k = some found) (hs : found.session ≠ row.session) :
    find? (upsert row rows).2 k = some found := by
  by_cases hk : row.columns = Row.columnsOf k
  · rw [upsert_of_foreign hk h hs]
    exact h
  · rw [find?_upsert_of_ne hk, h]

/-- A row that is not the one to be removed is found as before. -/
theorem find?_remove_of_not_isUnchanged {record : LockRecord} {found : Row} {rows : List Row}
    {k : Key} (h : find? rows k = some found) (hn : isUnchanged record found = false) :
    find? (rows.filter fun row => !isUnchanged record row) k = some found := by
  unfold find? at h ⊢
  induction rows with
  | nil => simp at h
  | cons row rows ih =>
    rw [List.find?_cons] at h
    split at h
    · rename_i hc
      cases h
      simp [hn, hc]
    · rename_i hc
      by_cases hu : isUnchanged record row
      · simpa [hu] using ih h
      · simpa [hu, List.find?_cons, hc] using ih h

/-! ### What the statements come to -/

/-- What comes of writing a record. -/
inductive SetRun (record : LockRecord) (r : Registry) : Except Failure Unit → Registry → Prop
  /-- The row under the record's key was free or of the same session. -/
  | stored (writable : r.Writable)
      (own : ∀ old, find? r.rows record.key = some old → old.session = record.session) :
      SetRun record r (.ok ()) (r.ran 1 (upsert (.ofRecord record) r.rows).2)
  /-- The statement failed. -/
  | unwritable (writable : ¬ r.Writable) : SetRun record r (.error engineFailure) (r.ran 1 r.rows)
  /-- The row under the record's key is of another session. -/
  | taken (writable : r.Writable) {old : Row} (found : find? r.rows record.key = some old)
      (foreign : old.session ≠ record.session) (e : Failure) :
      SetRun record r (.error e) (r.ran 2 r.rows)

/-- What comes of looking up a key. -/
inductive GetRun (k : Key) (r : Registry) : Except Failure (Option LockRecord) → Registry → Prop
  /-- The statement failed, or the row cannot be read. -/
  | failed {e : Failure}
      (why : r.Readable → ∃ row, find? r.rows k = some row ∧ row.decode = .error e) :
      GetRun k r (.error e) (r.ran 1 r.rows)
  | none (readable : r.Readable) (found : find? r.rows k = none) :
      GetRun k r (.ok none) (r.ran 1 r.rows)
  | some (readable : r.Readable) {row : Row} {record : LockRecord}
      (found : find? r.rows k = some row) (decoded : row.decode = .ok record) :
      GetRun k r (.ok (some record)) (r.ran 1 r.rows)

/-- What comes of removing a record that is unchanged. -/
inductive RemoveRun (record : LockRecord) (r : Registry) : Except Failure Bool → Registry → Prop
  | removed (writable : r.Writable) (any : Bool) :
      RemoveRun record r (.ok any) (r.ran 1 (r.rows.filter fun row => !isUnchanged record row))
  /-- The statement failed. -/
  | unwritable (writable : ¬ r.Writable) :
      RemoveRun record r (.error engineFailure) (r.ran 1 r.rows)

theorem getRun (k : Key) (r : Registry) : GetRun k r (r.get k).1 (r.get k).2 := by
  unfold get
  by_cases h : r.Readable
  · rw [query_of_readable _ h]
    cases hf : find? r.rows k with
    | none => exact .none h hf
    | some row =>
      cases hd : row.decode with
      | error e =>
        simp only [hd, Except.map]
        exact .failed fun _ => ⟨row, hf, hd⟩
      | ok record =>
        simp only [hd, Except.map]
        exact .some h hf hd
  · rw [query_of_not_readable _ h]
    exact .failed fun hr => absurd hr h

theorem removeRun (record : LockRecord) (r : Registry) :
    RemoveRun record r (r.removeIfUnchanged record).1 (r.removeIfUnchanged record).2 := by
  unfold removeIfUnchanged
  by_cases h : r.Writable
  · rw [execute_of_writable _ h]
    exact .removed h _
  · rw [execute_of_not_writable _ h]
    exact .unwritable h

theorem setRun (record : LockRecord) (r : Registry) :
    SetRun record r (r.setLock record).1 (r.setLock record).2 := by
  unfold setLock
  by_cases hw : r.Writable
  · rw [execute_of_writable _ hw]
    by_cases hown : ∀ old, find? r.rows record.key = some old → old.session = record.session
    · have hkey := Row.columns_ofRecord record
      rw [(find?_upsert_self hkey hown).1]
      exact .stored hw hown
    · push Not at hown
      obtain ⟨old, hf, hs⟩ := hown
      rw [upsert_of_foreign (Row.columns_ofRecord record) hf hs]
      simp only
      generalize hg : (r.ran 1 r.rows).get record.key = found
      obtain ⟨result, r'⟩ := found
      have hr' : r' = r.ran 2 r.rows := by
        have hrun := getRun record.key (r.ran 1 r.rows)
        rw [hg] at hrun
        cases hrun <;> rfl
      subst hr'
      cases result with
      | error e => exact .taken hw hf hs e
      | ok found => exact .taken hw hf hs _
  · rw [execute_of_not_writable _ hw]
    exact .unwritable hw

/-! ### One row for each object -/

section Keyed

variable {record : LockRecord} {k : Key} {r r' : Registry}

theorem keyed_empty : ({} : Registry).Keyed :=
  List.nodup_nil

/-- A row that is written takes the place of the one under its key, or a new place where there is
none. -/
theorem nodup_columns_upsert {row : Row} {rows : List Row}
    (h : (rows.map Row.columns).Nodup) : ((upsert row rows).2.map Row.columns).Nodup := by
  unfold upsert
  split
  · rename_i hnone
    have hfree : row.columns ∉ rows.map Row.columns := by
      intro hmem
      obtain ⟨old, hold, hcol⟩ := List.mem_map.1 hmem
      simpa [hcol] using List.find?_eq_none.1 hnone old hold
    rw [List.map_append]
    exact h.append (List.nodup_singleton _) (List.disjoint_singleton.2 hfree)
  · split
    · have hsame : Row.columns ∘ (fun r => if r.columns == row.columns then row else r) =
          Row.columns := by
        funext r
        by_cases hr : r.columns = row.columns
        · simp [hr]
        · simp [hr]
      rw [List.map_map, hsame]
      exact h
    · exact h

theorem nodup_columns_filter {rows : List Row} (h : (rows.map Row.columns).Nodup)
    (p : Row → Bool) : ((rows.filter p).map Row.columns).Nodup :=
  h.sublist (List.filter_sublist.map Row.columns)

/-- The row of a record that is unchanged is the one found under the record's key. -/
theorem isUnchanged_iff {rows : List Row} (keyed : (rows.map Row.columns).Nodup) {row : Row} :
    row ∈ rows ∧ isUnchanged record row = true ↔
      find? rows record.key = some row ∧ row.session = record.session ∧
        row.handle = record.handle := by
  rw [find?_eq_some_iff keyed]
  simp only [isUnchanged, Bool.and_eq_true, beq_iff_eq]
  tauto

/-- Of the rows that are kept, the one under a key is the one there was, if it is kept. -/
theorem find?_filter {rows : List Row} (keyed : (rows.map Row.columns).Nodup) (p : Row → Bool)
    (k : Key) : find? (rows.filter p) k = (find? rows k).filter p := by
  ext row
  simp only [find?_eq_some_iff (nodup_columns_filter keyed p), Option.filter_eq_some_iff,
    find?_eq_some_iff keyed, List.mem_filter]
  tauto

theorem GetRun.keyed {result : Except Failure (Option LockRecord)} (h : GetRun k r result r')
    (hr : r.Keyed) : r'.Keyed := by
  cases h <;> exact hr

theorem SetRun.keyed {result : Except Failure Unit} (h : SetRun record r result r')
    (hr : r.Keyed) : r'.Keyed := by
  cases h with
  | stored => exact nodup_columns_upsert hr
  | unwritable => exact hr
  | taken => exact hr

theorem RemoveRun.keyed {result : Except Failure Bool} (h : RemoveRun record r result r')
    (hr : r.Keyed) : r'.Keyed := by
  cases h with
  | removed => exact nodup_columns_filter hr _
  | unwritable => exact hr

theorem Keyed.remove (hr : r.Keyed) (k : Key) : (r.remove k).2.Keyed := by
  unfold Registry.remove
  by_cases hw : r.Writable
  · rw [execute_of_writable _ hw]
    exact nodup_columns_filter hr _
  · rw [execute_of_not_writable _ hw]
    exact hr

theorem Keyed.clear (hr : r.Keyed) : r.clear.2.Keyed := by
  unfold Registry.clear
  by_cases hw : r.Writable
  · rw [execute_of_writable _ hw]
    exact keyed_empty
  · rw [execute_of_not_writable _ hw]
    exact hr

theorem Keyed.putRow (hr : r.Keyed) (row : Row) : (r.putRow row).Keyed := by
  have hfree : row.columns ∉
      (r.rows.filter fun old => old.columns != row.columns).map Row.columns := by
    intro hmem
    obtain ⟨old, hold, hcol⟩ := List.mem_map.1 hmem
    simpa [hcol] using (List.mem_filter.1 hold).2
  unfold Registry.putRow Keyed
  rw [List.map_append]
  exact (nodup_columns_filter hr _).append (List.nodup_singleton _)
    (List.disjoint_singleton.2 hfree)

end Keyed

/-! ### What a record leaves -/

section Records

variable {record own : LockRecord} {r r₁ r₂ : Registry} {row : Row}

/-- A record that was written is found under its key. -/
theorem find?_of_setRun (h : SetRun record r (.ok ()) r₁) :
    find? r₁.rows record.key = some (.ofRecord record) := by
  cases h with
  | stored _ own => exact (find?_upsert_self (Row.columns_ofRecord record) own).2

/-- A record that could not be written changed no row. -/
theorem rows_of_setRun_error {e : Failure} (h : SetRun record r (.error e) r₁) :
    r₁.rows = r.rows := by
  cases h <;> rfl

/-- Where a record could not be written though the table could, its key belongs to another
session. -/
theorem columns_ne_of_setRun_error {e : Failure} (h : SetRun record r (.error e) r₁)
    (keyed : r.Keyed) (writable : r.Writable) (hrow : row ∈ r.rows)
    (hs : row.session = record.session) : row.columns ≠ Row.columnsOf record.key := by
  intro hc
  cases h with
  | unwritable unwritable => exact unwritable writable
  | taken _ found foreign =>
    rw [keyed.eq_of_find? found hrow hc] at hs
    exact foreign hs

theorem mem_of_removeRun {result : Except Failure Bool} (h : RemoveRun record r result r₁)
    (hrow : row ∈ r₁.rows) : row ∈ r.rows := by
  cases h with
  | removed => exact (List.mem_filter.1 hrow).1
  | unwritable => exact hrow

/-- **Written and removed, a record leaves nothing under its key**, and nothing new elsewhere. -/
theorem mem_of_setRun_removeRun {any : Bool} (written : SetRun record r (.ok ()) r₁)
    (removal : RemoveRun own r₁ (.ok any) r₂) (hkey : own.key = record.key)
    (hsession : own.session = record.session) (hhandle : own.handle = record.handle)
    (hrow : row ∈ r₂.rows) : row ∈ r.rows ∧ row.columns ≠ Row.columnsOf record.key := by
  cases written with
  | stored _ free =>
    cases removal with
    | removed =>
      obtain ⟨hmem, hkept⟩ := List.mem_filter.1 hrow
      have hupsert := (find?_upsert_self (Row.columns_ofRecord record) free).1
      rcases mem_upsert (congrArg Prod.fst hupsert) hmem with rfl | hold
      · have hown : isUnchanged own (.ofRecord record) = true := by
          simp [isUnchanged, hkey, hsession, hhandle]
        rw [hown] at hkept
        cases hkept
      · exact hold

/-- After a record was written, its removal fails just where the second statement may not write. -/
theorem not_available_of_removeRun_error {e : Failure} (written : SetRun record r (.ok ()) r₁)
    (removal : RemoveRun own r₁ (.error e) r₂) : r.availability (r.statements + 1) ≠ .available := by
  cases written with
  | stored => cases removal with
    | unwritable unwritable => exact unwritable

end Records

/-- Removing a record empties its key just where the row there, if any, was the one recorded. -/
theorem find?_of_removeRun_ok {record : LockRecord} {r r' : Registry} {any : Bool}
    (h : RemoveRun record r (.ok any) r') (keyed : r.Keyed) :
    find? r'.rows record.key = none ↔ ∀ row, find? r.rows record.key = some row →
      row.session = record.session ∧ row.handle = record.handle := by
  cases h with
  | removed =>
    constructor
    · intro hnone row hfound
      by_contra hother
      have hn : isUnchanged record row = false := by
        simp only [isUnchanged, Bool.and_eq_false_iff, beq_eq_false_iff_ne]
        tauto
      have hkept := find?_remove_of_not_isUnchanged hfound hn
      exact Option.some_ne_none row (hkept.symm.trans hnone)
    · intro hown
      refine List.find?_eq_none.2 fun other hmem hcolumns => ?_
      obtain ⟨hrow, hkept⟩ := List.mem_filter.1 hmem
      have hc : other.columns = Row.columnsOf record.key := by simpa using hcolumns
      cases hfound : find? r.rows record.key with
      | none => exact List.find?_eq_none.1 hfound other hrow hcolumns
      | some row =>
        obtain ⟨hsession, hhandle⟩ := hown row hfound
        rw [keyed.eq_of_find? hfound hrow hc] at hkept hc
        simp [isUnchanged, hc, hsession, hhandle] at hkept

/-- Removing a record leaves the row of another session. -/
theorem find?_of_removeRun {record : LockRecord} {r registry : Registry} {k : Key} {row : Row}
    {result : Except Failure Bool} (h : RemoveRun record r result registry)
    (hf : find? r.rows k = some row) (hs : row.session ≠ record.session) :
    find? registry.rows k = some row := by
  cases h with
  | removed =>
    have hn : isUnchanged record row = false := by simp [isUnchanged, hs]
    exact find?_remove_of_not_isUnchanged hf hn
  | unwritable => exact hf

end Registry

end EditLock
