/-
# Requests in a row

What any number of requests leave of a registry: one row for each object, and, where all that was
set can be read back, a registry that can be asked for the lock of each object. A single request can
do little to the row under a key: the row stays, or goes, or becomes that of a record that was set,
which belongs to the session of the row before it, if there was one (`Registry.RowChange`). So a row
that does not go is that of the record that was set last, and its session stays the same.

Key definitions: `Registry.afterAll`, `Registry.RowChange`, `Registry.Outlasts`.
Key theorems: `Registry.rowChange`, `Registry.Keyed.afterAll`, `Registry.lookup_of_storable`,
`Registry.Outlasts.latest`.
-/
import EditLock.Proofs.Registry.AsMap

namespace EditLock.Registry

/-- The registry after all of some requests. -/
def afterAll (requests : List LockRequest) (r : Registry) : Registry :=
  requests.foldl (fun r q => (q.answer r).2) r

section AfterAll

variable (requests more : List LockRequest) (r : Registry)

@[simp] theorem afterAll_nil : r.afterAll [] = r := rfl

theorem afterAll_append : r.afterAll (requests ++ more) = (r.afterAll requests).afterAll more :=
  List.foldl_append

end AfterAll

variable {k : Key} {q : LockRequest} {requests : List LockRequest} {r : Registry}

/-! ### What one request does -/

theorem query_rows {α : Type} (f : List Row → α) (r : Registry) : (r.query f).2.rows = r.rows := by
  unfold query
  cases r.availability r.statements <;> rfl

/-- A statement that writes leaves the rows as they are if it fails. -/
theorem execute_rows {α : Type} (f : List Row → α × List Row) (r : Registry) :
    (r.execute f).2.rows = (f r.rows).2 ∨ (r.execute f).2.rows = r.rows := by
  unfold execute
  cases r.availability r.statements
  · exact .inl rfl
  · exact .inr rfl
  · exact .inr rfl

theorem remove_rows (k : Key) (r : Registry) :
    (r.remove k).2.rows = r.rows.filter (fun row => row.columns != Row.columnsOf k) ∨
      (r.remove k).2.rows = r.rows :=
  execute_rows _ r

theorem removeIfUnchanged_rows (record : LockRecord) (r : Registry) :
    (r.removeIfUnchanged record).2.rows = r.rows.filter (fun row => !isUnchanged record row) ∨
      (r.removeIfUnchanged record).2.rows = r.rows :=
  execute_rows _ r

theorem clear_rows (r : Registry) :
    r.clear.2.rows = r.rows.filter (fun _ => false) ∨ r.clear.2.rows = r.rows := by
  rw [List.filter_false]
  exact execute_rows _ r

theorem get_rows (k : Key) (r : Registry) : (r.get k).2.rows = r.rows := by
  have hrun := getRun k r
  generalize r.get k = looked at hrun
  obtain ⟨result, r'⟩ := looked
  cases hrun <;> rfl

theorem scan_rows (r : Registry) : r.scan.2.rows = r.rows :=
  query_rows _ r

theorem listLocks_rows (r : Registry) : r.listLocks.2.rows = r.rows := by
  have hscan := scan_rows r
  unfold listLocks
  generalize r.scan = scanned at hscan
  obtain ⟨_ | _, r'⟩ := scanned <;> exact hscan

theorem locksForSession_rows (session : String) (r : Registry) :
    (r.locksForSession session).2.rows = r.rows := by
  unfold locksForSession
  have hquery := query_rows
    (fun rows => (sorted (rows.filter (·.session == session))).map Row.decode) r
  generalize r.query _ = queried at hquery ⊢
  obtain ⟨_ | _, r'⟩ := queried <;> exact hquery

/-- What a request can do to the row under a key: from the row before it, if there was one, to the
row after it. -/
inductive RowChange (k : Key) (q : LockRequest) : Option Row → Option Row → Prop
  | kept {row : Option Row} : RowChange k q row row
  | gone {row : Option Row} : RowChange k q row none
  | set {old : Option Row} {lock : LockRecord} (request : q = .setLock lock) (key : lock.key = k)
      (own : ∀ row, old = some row → row.session = lock.session) :
      RowChange k q old (some (.ofRecord lock))

theorem RowChange.of_rows {r' : Registry} (h : r'.rows = r.rows) :
    RowChange k q (find? r.rows k) (find? r'.rows k) := by
  rw [h]
  exact .kept

/-- Rows that were filtered have the row under a key, or none. -/
theorem RowChange.of_filter {r' : Registry} (keyed : r.Keyed) {p : Row → Bool}
    (h : r'.rows = r.rows.filter p ∨ r'.rows = r.rows) :
    RowChange k q (find? r.rows k) (find? r'.rows k) := by
  rcases h with h | h
  · rw [h, find?_filter keyed]
    cases find? r.rows k with
    | none => exact .kept
    | some row =>
      by_cases hp : p row = true
      · rw [Option.filter_some, if_pos hp]
        exact .kept
      · rw [Option.filter_some, if_neg hp]
        exact .gone
  · exact .of_rows h

theorem setLock_rowChange (hk : k.IsNormal) (lock : LockRecord) (r : Registry) :
    RowChange k (.setLock lock) (find? r.rows k) (find? (r.setLock lock).2.rows k) := by
  have hrun := setRun lock r
  generalize r.setLock lock = written at hrun
  obtain ⟨result, r'⟩ := written
  cases hrun with
  | stored writable own =>
    by_cases hkey : lock.key = k
    · subst hkey
      have hfound := (find?_upsert_self (Row.columns_ofRecord lock) own).2
      show RowChange lock.key _ _ (find? (upsert (.ofRecord lock) r.rows).2 lock.key)
      rw [hfound]
      exact .set rfl rfl own
    · have hcolumns : (Row.ofRecord lock).columns ≠ Row.columnsOf k := fun hc =>
        hkey ((Row.columnsOf_inj lock.isNormal_key.subKey_ne hk.subKey_ne).1 hc)
      show RowChange k _ _ (find? (upsert (.ofRecord lock) r.rows).2 k)
      rw [find?_upsert_of_ne hcolumns]
      exact .kept
  | unwritable => exact .kept
  | taken => exact .kept

/-- **What one request does to the row under a key.** -/
theorem rowChange (keyed : r.Keyed) (hk : k.IsNormal) (q : LockRequest) :
    RowChange k q (find? r.rows k) (find? (q.answer r).2.rows k) := by
  cases q with
  | setLock lock => exact setLock_rowChange hk lock r
  | get key => exact .of_rows (get_rows key r)
  | getLock kind name subKey => exact .of_rows (get_rows _ r)
  | remove key => exact .of_filter keyed (remove_rows key r)
  | removeLock kind name subKey => exact .of_filter keyed (remove_rows _ r)
  | removeIfUnchanged record => exact .of_filter keyed (removeIfUnchanged_rows record r)
  | listLocks => exact .of_rows (listLocks_rows r)
  | scan => exact .of_rows (scan_rows r)
  | locksForSession session => exact .of_rows (locksForSession_rows session r)
  | clear => exact .of_filter keyed (clear_rows r)

/-- No request brings a second row of one object into the table. -/
theorem Keyed.answer (keyed : r.Keyed) (q : LockRequest) : (q.answer r).2.Keyed := by
  have hof {r' : Registry} (h : r'.rows = r.rows) : r'.Keyed := by
    unfold Keyed
    rw [h]
    exact keyed
  cases q with
  | setLock lock => exact (setRun lock r).keyed keyed
  | get key => exact hof (get_rows key r)
  | getLock kind name subKey => exact hof (get_rows _ r)
  | remove key => exact keyed.remove key
  | removeLock kind name subKey => exact keyed.remove _
  | removeIfUnchanged record => exact (removeRun record r).keyed keyed
  | listLocks => exact hof (listLocks_rows r)
  | scan => exact hof (scan_rows r)
  | locksForSession session => exact hof (locksForSession_rows session r)
  | clear => exact keyed.clear

/-! ### What many requests do -/

theorem Keyed.afterAll (keyed : r.Keyed) (requests : List LockRequest) :
    (r.afterAll requests).Keyed := by
  induction requests generalizing r with
  | nil => exact keyed
  | cons q requests ih => exact ih (keyed.answer q)

theorem Keeps.afterAll {m : LockMap} (h : r.Keeps m) (storable : ∀ q ∈ requests, q.IsStorable) :
    ∃ m', (r.afterAll requests).Keeps m' := by
  induction requests generalizing r m with
  | nil => exact ⟨m, h⟩
  | cons q requests ih =>
    have hnext := (h.answer (storable q List.mem_cons_self)).2
    exact ih hnext fun q' hq' => storable q' (List.mem_cons_of_mem q hq')

/-- **Where all that was set can be read back, every object can be looked up.** -/
theorem lookup_of_storable (storable : ∀ q ∈ requests, q.IsStorable) (k : Key) :
    ∃ found, ((({} : Registry).afterAll requests).get k).1 = .ok found := by
  obtain ⟨m, hm⟩ := keeps_empty.afterAll storable
  exact ⟨m.get k, congrArg Prod.fst (hm.get k)⟩

/-- There is a row under a key, all along some requests. -/
def Outlasts (k : Key) (requests : List LockRequest) (r : Registry) : Prop :=
  ∀ first, first <+: requests → find? (r.afterAll first).rows k ≠ none

theorem Outlasts.of_cons (h : r.Outlasts k (q :: requests)) :
    find? (q.answer r).2.rows k ≠ none ∧ (q.answer r).2.Outlasts k requests := by
  have hlater : (q.answer r).2.Outlasts k requests := fun first hfirst =>
    h (q :: first) (List.cons_prefix_cons.2 ⟨rfl, hfirst⟩)
  exact ⟨hlater [] List.nil_prefix, hlater⟩

/-- **A row that stays is that of the lock that was set last**, and its session stays the same. -/
theorem Outlasts.latest {lock : LockRecord} (outlasts : r.Outlasts lock.key requests)
    (keyed : r.Keyed) (found : find? r.rows lock.key = some (.ofRecord lock)) :
    ∃ latest : LockRecord, (latest = lock ∨ .setLock latest ∈ requests) ∧
      latest.key = lock.key ∧ latest.session = lock.session ∧
      find? (r.afterAll requests).rows lock.key = some (.ofRecord latest) := by
  induction requests generalizing r lock with
  | nil => exact ⟨lock, .inl rfl, rfl, rfl, found⟩
  | cons q requests ih =>
    obtain ⟨hpresent, hlater⟩ := outlasts.of_cons
    have hchange := rowChange keyed lock.isNormal_key q
    generalize hnew : find? (q.answer r).2.rows lock.key = new at hchange hpresent
    cases hchange with
    | kept =>
      obtain ⟨latest, hset, hkey, hsession, hfound⟩ :=
        ih hlater (keyed.answer q) (hnew.trans found)
      exact ⟨latest, hset.imp_right (List.mem_cons_of_mem q), hkey, hsession, hfound⟩
    | gone => exact absurd rfl hpresent
    | @set next request key own =>
      have hsame : lock.session = next.session := own _ found
      rw [← key] at hlater hnew ⊢
      obtain ⟨latest, hset, hkey, hsession, hfound⟩ := ih hlater (keyed.answer q) hnew
      refine ⟨latest, .inr ?_, hkey, hsession.trans hsame.symm, hfound⟩
      rcases hset with rfl | hset
      · rw [request]
        exact List.mem_cons_self
      · exact List.mem_cons_of_mem q hset

end EditLock.Registry
