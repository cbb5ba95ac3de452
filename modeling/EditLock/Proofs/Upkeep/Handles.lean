/-
# Rows that differ in the end of a handle only

Of the handle of a lock no more is shown than its first eight characters. Two rows look like each
other if they differ in what follows these only, and two registries, if their rows do so one by one
and they let the same statements through. A sweep, though, removes a record where it finds the whole
handle of the record again; so a sweep of two such registries goes alike if they compare alike: a row
under the key of a record and of its session has the handle of the record in both, or in neither.
Where all rows were written by setting locks, a record is compared with its own row only, and that is
always so.

Key definitions: `HandleLooksLike`, `Row.LooksLike`, `Registry.LooksLike`, `Registry.ComparesLike`.
Key theorems: `shortHandle_eq`, `Registry.PairedBy.execute`, `Sweeper.sweepScanned_pairs`,
`Registry.IsOrderly.comparesLike`.
-/
import Mathlib.Data.List.Find
import EditLock.Proofs.Sweep.Locks
import EditLock.Proofs.Upkeep.Secrets

namespace EditLock

/-! ### Rows and records -/

/-- Handles that are equal, or that are both longer than what is shown of them and agree there. -/
def HandleLooksLike (handle handle' : String) : Prop :=
  handle' = handle ∨
    8 < handle.length ∧ 8 < handle'.length ∧ handle'.toList.take 8 = handle.toList.take 8

/-- Such handles are shown alike. -/
theorem shortHandle_eq {handle handle' : String} (h : HandleLooksLike handle handle') :
    shortHandle handle' = shortHandle handle := by
  rcases h with rfl | ⟨hlong, hlong', hsame⟩
  · rfl
  · unfold shortHandle shorten
    rw [if_neg (not_le.2 hlong), if_neg (not_le.2 hlong'), hsame]

/-- Rows that differ in the end of their handle only. -/
structure Row.LooksLike (row row' : Row) : Prop where
  same : row' = { row with handle := row'.handle }
  handle : HandleLooksLike row.handle row'.handle

/-- Records that differ in the end of their handle only. -/
structure LockRecord.LooksLike (record record' : LockRecord) : Prop where
  same : record' = { record with handle := record'.handle }
  handle : HandleLooksLike record.handle record'.handle

namespace LockRecord.LooksLike

variable {record record' : LockRecord} (h : record.LooksLike record')

include h

theorem key : record'.key = record.key := by
  rw [h.same]
  rfl

theorem session : record'.session = record.session := by
  rw [h.same]

theorem acquiredAt : record'.acquiredAt = record.acquiredAt := by
  rw [h.same]

end LockRecord.LooksLike

namespace Row.LooksLike

variable {row row' : Row} (h : row.LooksLike row')

include h

theorem columns : row'.columns = row.columns := by
  rw [h.same]
  rfl

theorem session : row'.session = row.session := by
  rw [h.same]

/-- They are ordered alike. -/
theorem compare {other other' : Row} (h' : other.LooksLike other') :
    Row.compare row' other' = Row.compare row other := by
  rw [h.same, h'.same]
  rfl

/-- They are read alike. -/
theorem decode : EndsLike LockRecord.LooksLike row.decode row'.decode := by
  have hhandle := h.handle
  rw [h.same]
  unfold Row.decode
  dsimp only
  cases Kind.parse row.kind with
  | error e => exact .error _
  | ok kind =>
    cases Instant.readStrict? row.acquiredAt with
    | none => exact .error _
    | some acquiredAt =>
      dsimp only
      split_ifs
      · exact .error _
      · exact .ok ⟨rfl, hhandle⟩
      · exact .ok ⟨rfl, hhandle⟩

end Row.LooksLike

/-! ### Registries -/

namespace Registry

/-- Registries that let the same statements through and whose rows look like each other. -/
structure LooksLike (r r' : Registry) : Prop where
  statements : r'.statements = r.statements
  availability : r'.availability = r.availability
  rows : List.Forall₂ Row.LooksLike r.rows r'.rows

/-- Whichever row of the pairs is read, a row under the key of its record and of its session has its
handle on both sides, or on neither. -/
def Compares (zs : List (Row × Row)) : Prop :=
  ∀ z ∈ zs, ∀ record, z.1.decode = .ok record → ∀ y ∈ zs,
    y.1.columns = Row.columnsOf record.key → y.1.session = record.session →
      (y.1.handle = z.1.handle ↔ y.2.handle = z.2.handle)

/-- Registries whose rows, one by one, compare alike. -/
def ComparesLike (r r' : Registry) : Prop :=
  Compares (r.rows.zip r'.rows)

/-- Registries that look like each other, with the pairs of their rows. -/
structure PairedBy (zs : List (Row × Row)) (r r' : Registry) : Prop where
  statements : r'.statements = r.statements
  availability : r'.availability = r.availability
  left : r.rows = zs.map Prod.fst
  right : r'.rows = zs.map Prod.snd
  alike : ∀ z ∈ zs, z.1.LooksLike z.2

variable {zs ys ws : List (Row × Row)} {r r' : Registry}

theorem LooksLike.pairedBy (h : r.LooksLike r') : PairedBy (r.rows.zip r'.rows) r r' where
  statements := h.statements
  availability := h.availability
  left := (List.map_fst_zip h.rows.length_eq.le).symm
  right := (List.map_snd_zip h.rows.length_eq.ge).symm
  alike _ hz := (List.forall₂_iff_zip.1 h.rows).2 hz

namespace PairedBy

theorem looksLike (h : PairedBy zs r r') : r.LooksLike r' where
  statements := h.statements
  availability := h.availability
  rows := by
    rw [h.left, h.right, List.forall₂_map_left_iff, List.forall₂_map_right_iff, List.forall₂_same]
    exact h.alike

theorem zip_eq (h : PairedBy zs r r') : r.rows.zip r'.rows = zs := by
  rw [h.left, h.right, List.zip_map']
  exact List.map_id' zs

/-! #### Statements -/

/-- A statement that reads finds related things, and leaves the pairs as they are. -/
theorem query {α β : Type} {R : α → β → Prop} {f : List Row → α} {f' : List Row → β}
    (h : PairedBy zs r r') (hR : R (f (zs.map Prod.fst)) (f' (zs.map Prod.snd))) :
    RunsLike (EndsLike R) (PairedBy zs) (r.query f) (r'.query f') := by
  have hafter : PairedBy zs (r.ran 1 r.rows) (r'.ran 1 r'.rows) :=
    { h with statements := congrArg (· + 1) h.statements }
  by_cases hr : r.Readable
  · have hr' : r'.Readable := by rwa [Readable, h.availability, h.statements]
    rw [query_of_readable f hr, query_of_readable f' hr', h.left, h.right]
    rw [h.left, h.right] at hafter
    exact .mk (.ok hR) hafter
  · have hr' : ¬ r'.Readable := by rwa [Readable, h.availability, h.statements]
    rw [query_of_not_readable f hr, query_of_not_readable f' hr']
    exact .mk (.error _) hafter

end PairedBy

/-- Registries that are paired by some of the pairs. -/
def PairedWithin (zs : List (Row × Row)) (r r' : Registry) : Prop :=
  ∃ ys, (∀ z ∈ ys, z ∈ zs) ∧ PairedBy ys r r'

theorem PairedBy.within (h : PairedBy zs r r') : PairedWithin zs r r' :=
  ⟨zs, fun _ hz => hz, h⟩

theorem PairedWithin.mono (h : PairedWithin ys r r') (hys : ∀ z ∈ ys, z ∈ zs) :
    PairedWithin zs r r' := by
  obtain ⟨xs, hxs, hpair⟩ := h
  exact ⟨xs, fun z hz => hys z (hxs z hz), hpair⟩

/-- A statement that writes finds the same, and leaves some of the pairs. -/
theorem PairedBy.execute {α : Type} {f f' : List Row → α × List Row} (h : PairedBy zs r r')
    (found : (f (zs.map Prod.fst)).1 = (f' (zs.map Prod.snd)).1) (hys : ∀ z ∈ ys, z ∈ zs)
    (left : (f (zs.map Prod.fst)).2 = ys.map Prod.fst)
    (right : (f' (zs.map Prod.snd)).2 = ys.map Prod.snd) :
    RunsLike Eq (PairedWithin zs) (r.execute f) (r'.execute f') := by
  have hstatements : r'.statements + 1 = r.statements + 1 := congrArg (· + 1) h.statements
  by_cases hw : r.Writable
  · have hw' : r'.Writable := by rwa [Writable, h.availability, h.statements]
    rw [execute_of_writable f hw, execute_of_writable f' hw', h.left, h.right]
    exact .mk (congrArg Except.ok found) ⟨ys, hys, hstatements, h.availability, left, right,
      fun z hz => h.alike z (hys z hz)⟩
  · have hw' : ¬ r'.Writable := by rwa [Writable, h.availability, h.statements]
    rw [execute_of_not_writable f hw, execute_of_not_writable f' hw']
    exact .mk rfl ⟨zs, fun _ hz => hz, hstatements, h.availability, h.left, h.right, h.alike⟩

/-- What is kept by a choice that falls alike for both rows of each pair. -/
theorem map_filter_pairs {p q : Row → Bool} (hpq : ∀ z ∈ zs, q z.2 = p z.1) :
    (zs.map Prod.fst).filter p = (zs.filter fun z => p z.1).map Prod.fst ∧
      (zs.map Prod.snd).filter q = (zs.filter fun z => p z.1).map Prod.snd := by
  refine ⟨List.filter_map .., ?_⟩
  rw [List.filter_map]
  exact congrArg (List.map Prod.snd) (List.filter_congr hpq)

/-- What is found by a choice that falls alike for both rows of each pair. -/
theorem any_pairs {p q : Row → Bool} (hpq : ∀ z ∈ zs, q z.2 = p z.1) :
    (zs.map Prod.fst).any p = (zs.map Prod.snd).any q := by
  induction zs with
  | nil => rfl
  | cons z zs ih =>
    have hrest := ih fun y hy => hpq y (List.mem_cons_of_mem z hy)
    rw [List.map_cons, List.map_cons, List.any_cons, List.any_cons, hpq z List.mem_cons_self, hrest]

namespace PairedBy

theorem find? (h : PairedBy zs r r') (k : Key) :
    Option.Rel Row.LooksLike (Registry.find? (zs.map Prod.fst) k)
      (Registry.find? (zs.map Prod.snd) k) := by
  have hsame : zs.find? ((fun row => row.columns == Row.columnsOf k) ∘ Prod.snd) =
      zs.find? ((fun row => row.columns == Row.columnsOf k) ∘ Prod.fst) := by
    refine List.find?_congr fun z hz => ?_
    rw [Function.comp_apply, Function.comp_apply, (h.alike z hz).columns]
  unfold Registry.find?
  rw [List.find?_map, List.find?_map, hsame]
  cases hfind : zs.find? ((fun row => row.columns == Row.columnsOf k) ∘ Prod.fst) with
  | none => exact .none
  | some z => exact .some (h.alike z (List.mem_of_find?_eq_some hfind))

theorem get (h : PairedBy zs r r') (k : Key) :
    RunsLike (EndsLike (Option.Rel LockRecord.LooksLike)) (PairedBy zs) (r.get k) (r'.get k) := by
  have hquery : RunsLike (EndsLike (Option.Rel Row.LooksLike)) (PairedBy zs)
      (r.query fun rows => Registry.find? rows k) (r'.query fun rows => Registry.find? rows k) :=
    h.query (h.find? k)
  unfold Registry.get
  generalize (r.query fun rows => Registry.find? rows k) = done at hquery ⊢
  generalize (r'.query fun rows => Registry.find? rows k) = done' at hquery ⊢
  obtain ⟨hfound, hafter⟩ := hquery
  cases hfound with
  | error e => exact .mk (.error e) hafter
  | ok hrow =>
    cases hrow with
    | none => exact .mk (.ok .none) hafter
    | @some row row' hrow =>
      refine .mk ?_ hafter
      have hdecode := hrow.decode
      generalize row.decode = record at hdecode ⊢
      generalize row'.decode = record' at hdecode ⊢
      cases hdecode with
      | error e => exact .error e
      | ok hrecord => exact .ok (.some hrecord)

theorem remove (h : PairedBy zs r r') (k : Key) :
    RunsLike Eq (PairedWithin zs) (r.remove k) (r'.remove k) := by
  have hchosen : ∀ z ∈ zs, (z.2.columns != Row.columnsOf k) = (z.1.columns != Row.columnsOf k) :=
    fun z hz => by rw [(h.alike z hz).columns]
  obtain ⟨hleft, hright⟩ := map_filter_pairs (p := fun row => row.columns != Row.columnsOf k)
    (q := fun row => row.columns != Row.columnsOf k) hchosen
  exact h.execute rfl (fun z hz => (List.mem_filter.1 hz).1) hleft hright

/-- A record is removed alike if it is found again alike. -/
theorem removeIfUnchanged (h : PairedBy zs r r') {record record' : LockRecord}
    (judged : ∀ z ∈ zs, isUnchanged record' z.2 = isUnchanged record z.1) :
    RunsLike Eq (PairedWithin zs) (r.removeIfUnchanged record) (r'.removeIfUnchanged record') := by
  have hkept : ∀ z ∈ zs, (!isUnchanged record' z.2) = !isUnchanged record z.1 :=
    fun z hz => by rw [judged z hz]
  obtain ⟨hleft, hright⟩ := map_filter_pairs (p := fun row => !isUnchanged record row)
    (q := fun row => !isUnchanged record' row) hkept
  exact h.execute (any_pairs judged) (fun z hz => (List.mem_filter.1 hz).1) hleft hright

/-- The rows in their order are paired in the order of the first ones. -/
theorem exists_sorted (h : PairedBy zs r r') : ∃ ws : List (Row × Row), (∀ w ∈ ws, w ∈ zs) ∧
    sorted (zs.map Prod.fst) = ws.map Prod.fst ∧ sorted (zs.map Prod.snd) = ws.map Prod.snd := by
  refine ⟨zs.mergeSort fun z y => (Row.compare z.1 y.1).isLE, fun w hw => List.mem_mergeSort.1 hw,
    ?_, ?_⟩
  · exact (List.map_mergeSort (f := Prod.fst) fun z hz y hy => rfl).symm
  · refine (List.map_mergeSort fun z hz y hy => ?_).symm
    rw [(h.alike z hz).compare (h.alike y hy)]

/-- What is read of paired rows. -/
def ReadOf (zs : List (Row × Row)) (scanned scanned' : List (Except Failure LockRecord)) : Prop :=
  ∃ ws : List (Row × Row), (∀ w ∈ ws, w ∈ zs) ∧ scanned = ws.map (fun w => w.1.decode) ∧
    scanned' = ws.map fun w => w.2.decode

theorem scan (h : PairedBy zs r r') :
    RunsLike (EndsLike (ReadOf zs)) (PairedBy zs) r.scan r'.scan := by
  obtain ⟨ws, hws, hleft, hright⟩ := h.exists_sorted
  have hread : (sorted (zs.map Prod.fst)).map Row.decode = ws.map fun w => w.1.decode := by
    rw [hleft, List.map_map, Function.comp_def]
  have hread' : (sorted (zs.map Prod.snd)).map Row.decode = ws.map fun w => w.2.decode := by
    rw [hright, List.map_map, Function.comp_def]
  unfold Registry.scan
  exact h.query ⟨ws, hws, hread, hread'⟩

end PairedBy

/-- Records are collected alike. -/
theorem collect_pairs {ws : List (Row × Row)} (alike : ∀ w ∈ ws, w.1.LooksLike w.2) :
    EndsLike (List.Forall₂ LockRecord.LooksLike) (collect (ws.map fun w => w.1.decode))
      (collect (ws.map fun w => w.2.decode)) := by
  induction ws with
  | nil => exact .ok .nil
  | cons w ws ih =>
    have hfirst := (alike w List.mem_cons_self).decode
    have hrest := ih fun y hy => alike y (List.mem_cons_of_mem w hy)
    rw [List.map_cons, List.map_cons]
    generalize w.1.decode = record at hfirst ⊢
    generalize w.2.decode = record' at hfirst ⊢
    cases hfirst with
    | error e => exact .error e
    | ok hrecord =>
      rw [collect, collect]
      generalize collect (ws.map fun w => w.1.decode) = records at hrest ⊢
      generalize collect (ws.map fun w => w.2.decode) = records' at hrest ⊢
      cases hrest with
      | error e => exact .error e
      | ok hrecords => exact .ok (.cons hrecord hrecords)

theorem PairedBy.listLocks (h : PairedBy zs r r') :
    RunsLike (EndsLike (List.Forall₂ LockRecord.LooksLike)) (PairedBy zs) r.listLocks
      r'.listLocks := by
  have hscan := h.scan
  unfold Registry.listLocks
  generalize r.scan = done at hscan ⊢
  generalize r'.scan = done' at hscan ⊢
  obtain ⟨hread, hafter⟩ := hscan
  cases hread with
  | error e => exact .mk (.error e) hafter
  | ok hread =>
    obtain ⟨ws, hws, rfl, rfl⟩ := hread
    exact .mk (collect_pairs fun w hw => h.alike w (hws w hw)) hafter

/-! #### Sweeps -/

theorem Compares.mono (h : Compares zs) (hys : ∀ z ∈ ys, z ∈ zs) : Compares ys :=
  fun z hz record hrecord y hy => h z (hys z hz) record hrecord y (hys y hy)

/-- A record that was read of a pair is found again alike. -/
theorem Compares.judged (h : Compares zs) (alike : ∀ z ∈ zs, z.1.LooksLike z.2) {w z : Row × Row}
    (hw : w ∈ zs) (hz : z ∈ zs) {record record' : LockRecord} (hread : w.1.decode = .ok record)
    (hread' : w.2.decode = .ok record') :
    isUnchanged record' z.2 = isUnchanged record z.1 := by
  have hlike : record.LooksLike record' := by
    have hdecode := (alike w hw).decode
    rw [hread, hread'] at hdecode
    cases hdecode with
    | ok hlike => exact hlike
  have hcompare := h w hw record hread z hz
  rw [← (Row.decode_eq_ok hread).2, ← (Row.decode_eq_ok hread').2] at hcompare
  unfold isUnchanged
  rw [(alike z hz).columns, (alike z hz).session, hlike.key, hlike.session]
  rw [Bool.eq_iff_iff]
  simp only [Bool.and_eq_true, beq_iff_eq]
  constructor
  · rintro ⟨⟨hcolumns, hsession⟩, hhandle⟩
    exact ⟨⟨hcolumns, hsession⟩, (hcompare hcolumns hsession).2 hhandle⟩
  · rintro ⟨⟨hcolumns, hsession⟩, hhandle⟩
    exact ⟨⟨hcolumns, hsession⟩, (hcompare hcolumns hsession).1 hhandle⟩

/-- **Rows that were written by setting locks compare alike**: each is compared with itself only. -/
theorem IsOrderly.comparesLike (h : r.IsOrderly) (like : r.LooksLike r') : r.ComparesLike r' := by
  -- A record that was read is keyed as its own row is, and no other row has that key.
  have hpair := like.pairedBy
  have hnodup : ((r.rows.zip r'.rows).map Prod.fst).Nodup := hpair.left ▸ h.nodup
  intro z hz record hread y hy hcolumns _
  have hz' : z.1 ∈ r.rows := hpair.left ▸ List.mem_map_of_mem hz
  have hy' : y.1 ∈ r.rows := hpair.left ▸ List.mem_map_of_mem hy
  have hfst : y.1 = z.1 :=
    List.inj_on_of_nodup_map h.keyed hy' hz' (hcolumns.trans (h.columns_eq hz' hread).symm)
  rw [List.inj_on_of_nodup_map hnodup hy hz hfst]
  exact ⟨fun _ => rfl, fun _ => rfl⟩

end Registry

namespace Sweeper

open Registry

variable {zs : List (Row × Row)} {r r' : Registry} {p q : LockRecord → Bool}

/-- What is swept of paired rows, record by record. -/
theorem sweepScanned_pairs
    (hpq : ∀ record record' : LockRecord, record.LooksLike record' → q record' = p record)
    (hcompares : Compares zs) (alike : ∀ z ∈ zs, z.1.LooksLike z.2) {ws : List (Row × Row)}
    (hws : ∀ w ∈ ws, w ∈ zs) (h : PairedWithin zs r r') :
    RunsLike (List.Forall₂ LockRecord.LooksLike) (PairedWithin zs)
      (sweepScanned p (ws.map fun w => w.1.decode) r)
      (sweepScanned q (ws.map fun w => w.2.decode) r') := by
  -- Induction on what was scanned. What is left of the rows shrinks meanwhile, but stays within `zs`,
  -- for which it is known that all compare alike.
  induction ws generalizing r r' with
  | nil => exact .mk .nil h
  | cons w ws ih =>
    have hw : w ∈ zs := hws w List.mem_cons_self
    have hrest : ∀ w ∈ ws, w ∈ zs := fun y hy => hws y (List.mem_cons_of_mem w hy)
    have hdecode := (alike w hw).decode
    rw [List.map_cons, List.map_cons]
    generalize hread : w.1.decode = read at hdecode ⊢
    generalize hread' : w.2.decode = read' at hdecode ⊢
    cases hdecode with
    | error e => exact ih hrest h
    | @ok record record' hlike =>
      rw [sweepScanned, sweepScanned, hpq record record' hlike]
      split_ifs with hp
      · obtain ⟨ys, hys, hpair⟩ := h
        have hjudged : ∀ z ∈ ys, isUnchanged record' z.2 = isUnchanged record z.1 :=
          fun z hz => hcompares.judged alike hw (hys z hz) hread hread'
        have hremove := hpair.removeIfUnchanged hjudged
        generalize r.removeIfUnchanged record = done at hremove ⊢
        generalize r'.removeIfUnchanged record' = done' at hremove ⊢
        obtain ⟨rfl, hafter⟩ := hremove
        rename_i removed _ _
        have hswept := ih hrest (hafter.mono hys)
        cases removed with
        | error e => exact hswept
        | ok any =>
          cases any with
          | true => exact .mk (.cons hlike hswept.result) hswept.left
          | false => exact hswept
      · exact ih hrest h

theorem sweepLocks_pairs
    (hpq : ∀ record record' : LockRecord, record.LooksLike record' → q record' = p record)
    (hcompares : Compares zs) (h : PairedBy zs r r') :
    RunsLike (EndsLike (List.Forall₂ LockRecord.LooksLike)) (PairedWithin zs) (sweepLocks p r)
      (sweepLocks q r') := by
  have hscan := h.scan
  unfold sweepLocks
  generalize r.scan = done at hscan ⊢
  generalize r'.scan = done' at hscan ⊢
  obtain ⟨hread, hafter⟩ := hscan
  cases hread with
  | error e => exact .mk (.error e) hafter.within
  | ok hread =>
    obtain ⟨ws, hws, rfl, rfl⟩ := hread
    have hswept := sweepScanned_pairs hpq hcompares h.alike hws hafter.within
    exact .mk (.ok hswept.result) hswept.left

end Sweeper

end EditLock
