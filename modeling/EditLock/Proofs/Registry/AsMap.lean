/-
# The registry is a map

The rows of the registry are the locks of a map, written out: each lock under the columns of its key,
and nothing else (`Registry.Keeps`). Every request keeps that up and is answered as the map answers
it, so the registry and the map cannot be told apart by any sequence of requests.

Key definitions: `Registry.Keeps`.
Key theorems: `Registry.sorted_eq`, `Registry.Keeps.rows_perm`, `Registry.Keeps.answer`,
`Registry.answers_as_map`.
-/
import Mathlib.Data.List.Pairwise
import EditLock.Proofs.Answers
import EditLock.Proofs.Registry.LockMap
import EditLock.Proofs.Registry.Rows

namespace EditLock

/-! ### Rows of locks -/

/-- A lock whose row can be read back: the time has a four-digit year, and the process number fits
its column. -/
structure Holding.IsStorable (h : Holding) : Prop where
  civil : h.acquiredAt.IsCivil
  pid_le : h.pid ≤ Json.maxPid

namespace LockMap

variable {k k' : Key} {h h' : Holding}

/-- The row of the lock under a key. -/
def row (k : Key) (h : Holding) : Row :=
  .ofRecord (record k h)

theorem key_record (hk : k.IsNormal) (h : Holding) : (record k h).key = k :=
  Key.make_self hk

theorem columns_row (hk : k.IsNormal) (h : Holding) : (row k h).columns = Row.columnsOf k := by
  rw [row, Row.columns_ofRecord, key_record hk]

theorem decode_row (hk : k.IsNormal) (hs : h.IsStorable) : (row k h).decode = .ok (record k h) := by
  rw [row, Row.decode_ofRecord hs.civil hs.pid_le, key_record hk]
  rfl

theorem row_holding (r : LockRecord) : row r.key r.holding = .ofRecord r := by
  have hkey : (record r.key r.holding).key = r.key := key_record r.isNormal_key _
  unfold row Row.ofRecord
  rw [hkey]
  rfl

/-- An absent parent is stored as the empty text, which comes before every other. -/
theorem compare_subKeyColumn (hk : k.IsNormal) (hk' : k'.IsNormal) :
    compare k.subKeyColumn k'.subKeyColumn = compare k.subKey k'.subKey := by
  have empty_lt {s : String} (hs : s ≠ "") : compare "" s = .lt := by
    rw [compare_lt_iff_lt, String.lt_iff_toList_lt]
    cases hl : s.toList with
    | nil => exact absurd (String.toList_eq_nil_iff.1 hl) hs
    | cons c cs => exact List.nil_lt_cons c cs
  have hne := hk.subKey_ne
  have hne' := hk'.subKey_ne
  unfold Key.subKeyColumn
  cases hsub : k.subKey with
  | none =>
    cases hsub' : k'.subKey with
    | none => rfl
    | some s' => exact empty_lt fun he : s' = "" => hne' (by rw [hsub', he])
  | some s =>
    cases hsub' : k'.subKey with
    | none =>
      exact Std.OrientedCmp.gt_iff_lt.2 (empty_lt fun he : s = "" => hne (by rw [hsub, he]))
    | some s' => rfl

theorem compare_row (hk : k.IsNormal) (hk' : k'.IsNormal) :
    Row.compare (row k h) (row k' h') = Key.compareStored k k' := by
  have hcol : (row k h).columns = Row.columnsOf k := columns_row hk h
  have hcol' : (row k' h').columns = Row.columnsOf k' := columns_row hk' h'
  simp only [Row.columns, Row.columnsOf, Prod.mk.injEq] at hcol hcol'
  obtain ⟨hkind, hname, hsub⟩ := hcol
  obtain ⟨hkind', hname', hsub'⟩ := hcol'
  unfold Row.compare
  rw [hkind, hname, hsub, hkind', hname', hsub', compare_subKeyColumn hk hk']
  rfl

end LockMap

/-! ### Rows in order -/

instance : Std.TransCmp Row.compare :=
  inferInstanceAs (Std.TransCmp (compareLex (compareOn Row.kind)
    (compareLex (compareOn Row.name) (compareOn Row.subKey))))

namespace Registry

/-- Rows in their strict order are what sorting gives. -/
theorem sorted_eq {rows listed : List Row} (same : listed.Perm rows)
    (ordered : listed.Pairwise fun a b => Row.compare a b = .lt) : sorted rows = listed := by
  have hperm : (sorted rows).Perm listed := (List.mergeSort_perm rows _).trans same.symm
  have hsorted : (sorted rows).Pairwise fun a b => (Row.compare a b).isLE := by
    refine List.pairwise_mergeSort (fun a b c => Std.TransCmp.isLE_trans) (fun a b => ?_) rows
    have hswap : Row.compare b a = (Row.compare a b).swap := Std.OrientedCmp.eq_swap
    rw [hswap]
    cases Row.compare a b <;> rfl
  have hlisted : listed.Pairwise fun a b => (Row.compare a b).isLE :=
    ordered.imp fun h => by rw [h]; rfl
  have hsymm : Std.Symm fun a b : Row => Row.compare a b = .eq → a = b :=
    ⟨fun _ _ h heq => (h (Std.OrientedCmp.eq_symm heq)).symm⟩
  -- no two rows of a strictly ordered list tie
  have hties : listed.Pairwise fun a b => Row.compare a b = .eq → a = b := by
    refine ordered.imp fun {a b} h heq => ?_
    rw [h] at heq
    cases heq
  refine hperm.eq_of_pairwise (fun a b ha hb hab hba => ?_) hsorted hlisted
  exact hties.forall_of_forall (fun _ _ _ => rfl) (hperm.mem_iff.1 ha) hb
    (Std.OrientedCmp.isLE_antisymm hab hba)

/-! ### The rows of a map -/

/-- The registry keeps the locks of a map and carries out every statement. -/
structure Keeps (r : Registry) (m : LockMap) : Prop where
  available : ∀ n, r.availability n = .available
  keyed : r.Keyed
  /-- Each row stands under the key of an object. -/
  own : ∀ row ∈ r.rows, ∃ k : Key, k.IsNormal ∧ row.columns = Row.columnsOf k
  found : ∀ k : Key, k.subKey ≠ some "" → find? r.rows k = m[k]?.map (LockMap.row k)
  kept : ∀ (k : Key) (h : Holding), m[k]? = some h → k.IsNormal ∧ h.IsStorable

theorem keeps_empty : ({} : Registry).Keeps ∅ where
  available _ := rfl
  keyed := keyed_empty
  own := nofun
  found _ _ := by simp [find?]
  kept _ _ h := by simp at h

namespace Keeps

variable {r : Registry} {m : LockMap}

theorem writable (h : r.Keeps m) : r.Writable :=
  h.available _

theorem readable (h : r.Keeps m) : r.Readable := by
  rw [Readable, h.available]
  exact nofun

theorem ran (h : r.Keeps m) (count : Nat) : (r.ran count r.rows).Keeps m :=
  ⟨h.available, h.keyed, h.own, h.found, h.kept⟩

/-- The rows of the locks, in the order of the keys, are strictly in order. -/
theorem ordered_rows (h : r.Keeps m) :
    (m.toList.map fun e => LockMap.row e.1 e.2).Pairwise fun a b => Row.compare a b = .lt := by
  rw [List.pairwise_map]
  refine m.ordered_keys_toList.imp_of_mem fun {e e'} he he' hlt => ?_
  have hk := (h.kept e.1 e.2 (Std.ExtTreeMap.mem_toList_iff_getElem?_eq_some.1 he)).1
  have hk' := (h.kept e'.1 e'.2 (Std.ExtTreeMap.mem_toList_iff_getElem?_eq_some.1 he')).1
  rw [LockMap.compare_row hk hk']
  exact hlt

/-- **The rows are those of the locks**, in some order. -/
theorem rows_perm (h : r.Keeps m) : (m.toList.map fun e => LockMap.row e.1 e.2).Perm r.rows := by
  have hnodup : (m.toList.map fun e => LockMap.row e.1 e.2).Nodup :=
    h.ordered_rows.imp fun {a b} hlt heq => by
      have hself : Row.compare b b = .eq := Std.ReflCmp.compare_self
      rw [heq, hself] at hlt
      cases hlt
  refine (List.perm_ext_iff_of_nodup hnodup (List.Nodup.of_map _ h.keyed)).2 fun row => ?_
  rw [List.mem_map]
  constructor
  · rintro ⟨⟨k, held⟩, he, rfl⟩
    have hm := Std.ExtTreeMap.mem_toList_iff_getElem?_eq_some.1 he
    have hfound := h.found k (h.kept k held hm).1.subKey_ne
    rw [hm, Option.map_some] at hfound
    exact (find?_eq_some hfound).1
  · intro hrow
    obtain ⟨k, hk, hcol⟩ := h.own row hrow
    have hfound := (find?_eq_some_iff h.keyed).2 ⟨hrow, hcol⟩
    rw [h.found k hk.subKey_ne] at hfound
    obtain ⟨held, hm, hrow⟩ := Option.map_eq_some_iff.1 hfound
    exact ⟨(k, held), Std.ExtTreeMap.mem_toList_iff_getElem?_eq_some.2 hm, hrow⟩

/-- The rows that are sorted out are those of the locks that are, in order. -/
theorem decode_sorted_filter (h : r.Keeps m) (p : Row → Bool) (q : LockRecord → Bool)
    (same : ∀ (k : Key) (held : Holding), p (LockMap.row k held) = q (LockMap.record k held)) :
    (sorted (r.rows.filter p)).map Row.decode = (m.records.filter q).map .ok := by
  have hsorted : sorted (r.rows.filter p) =
      (m.toList.map fun e => LockMap.row e.1 e.2).filter p :=
    sorted_eq (h.rows_perm.filter p) (h.ordered_rows.filter p)
  rw [hsorted, LockMap.records, List.filter_map, List.filter_map, List.map_map, List.map_map]
  have hpq : (p ∘ fun e : Key × Holding => LockMap.row e.1 e.2) =
      q ∘ fun e => LockMap.record e.1 e.2 := funext fun e => same e.1 e.2
  rw [hpq]
  refine List.map_congr_left fun e he => ?_
  have hm := Std.ExtTreeMap.mem_toList_iff_getElem?_eq_some.1 (List.mem_filter.1 he).1
  obtain ⟨hk, hs⟩ := h.kept e.1 e.2 hm
  rw [Function.comp_apply, LockMap.decode_row hk hs, Function.comp_apply]

theorem decode_sorted (h : r.Keeps m) : (sorted r.rows).map Row.decode = m.records.map .ok := by
  have hall := h.decode_sorted_filter (fun _ => true) (fun _ => true) fun _ _ => rfl
  simpa using hall

/-! ### Looking up and listing -/

theorem get (h : r.Keeps m) (k : Key) : r.get k = (.ok (m.get k), r.ran 1 r.rows) := by
  have hfound := h.found k.folded k.subKey_folded_ne
  rw [find?_folded] at hfound
  unfold Registry.get LockMap.get
  rw [query_of_readable _ h.readable]
  simp only [hfound]
  cases hm : m[k.folded]? with
  | none => rfl
  | some held =>
    obtain ⟨hk, hs⟩ := h.kept _ _ hm
    simp only [Option.map_some, LockMap.decode_row hk hs]
    rfl

theorem scan (h : r.Keeps m) : r.scan = (.ok (m.records.map .ok), r.ran 1 r.rows) := by
  unfold Registry.scan
  rw [query_of_readable _ h.readable, h.decode_sorted]

theorem listLocks (h : r.Keeps m) : r.listLocks = (.ok m.records, r.ran 1 r.rows) := by
  unfold Registry.listLocks
  rw [h.scan]
  exact Prod.ext (collect_eq_ok_iff.2 rfl) rfl

theorem locksForSession (h : r.Keeps m) (session : String) : r.locksForSession session =
    (.ok (m.records.filter fun record => record.session = session), r.ran 1 r.rows) := by
  have hrows := h.decode_sorted_filter (·.session == session)
    (fun record => decide (record.session = session)) fun _ _ => rfl
  unfold Registry.locksForSession
  rw [query_of_readable _ h.readable, hrows]
  exact Prod.ext (collect_eq_ok_iff.2 rfl) rfl

/-! ### Setting and removing -/

/-- A lock that nobody else holds is stored under its key. -/
theorem insert (h : r.Keeps m) {record : LockRecord} (storable : record.holding.IsStorable)
    (own : ∀ held, m[record.key]? = some held → held.session = record.session) :
    r.setLock record = (.ok (), r.ran 1 (upsert (.ofRecord record) r.rows).2) ∧
      (r.ran 1 (upsert (.ofRecord record) r.rows).2).Keeps
        (m.insert record.key record.holding) := by
  have hk := record.isNormal_key
  have hcol := Row.columns_ofRecord record
  have hold : ∀ old, find? r.rows record.key = some old →
      old.session = (Row.ofRecord record).session := by
    intro old hf
    rw [h.found _ hk.subKey_ne] at hf
    obtain ⟨held, hm, rfl⟩ := Option.map_eq_some_iff.1 hf
    exact own held hm
  obtain ⟨hwrote, hself⟩ := find?_upsert_self hcol hold
  refine ⟨?_, h.available, nodup_columns_upsert h.keyed, ?_, ?_, ?_⟩
  · unfold setLock
    rw [execute_of_writable _ h.writable, hwrote]
  · intro row hmem
    rcases mem_upsert (congrArg Prod.fst hwrote) hmem with rfl | ⟨hrow, -⟩
    · exact ⟨record.key, hk, hcol⟩
    · exact h.own row hrow
  · intro k hne
    rw [ran_rows, Std.ExtTreeMap.getElem?_insert]
    by_cases hkey : record.key = k
    · rw [if_pos (Key.compareStored_eq_eq_iff.2 hkey), ← hkey, hself, Option.map_some,
        LockMap.row_holding]
    · have hother : (Row.ofRecord record).columns ≠ Row.columnsOf k := by
        rw [hcol, Ne, Row.columnsOf_inj hk.subKey_ne hne]
        exact hkey
      rw [if_neg (mt Key.compareStored_eq_eq_iff.1 hkey), find?_upsert_of_ne hother,
        h.found k hne]
  · intro k held hm
    rw [Std.ExtTreeMap.getElem?_insert] at hm
    by_cases hkey : record.key = k
    · rw [if_pos (Key.compareStored_eq_eq_iff.2 hkey), Option.some.injEq] at hm
      exact ⟨hkey ▸ hk, hm ▸ storable⟩
    · rw [if_neg (mt Key.compareStored_eq_eq_iff.1 hkey)] at hm
      exact h.kept k held hm

/-- A lock of another session is a conflict, and stays. -/
theorem setLock_foreign (h : r.Keeps m) {record : LockRecord} {held : Holding}
    (hm : m[record.key]? = some held) (foreign : held.session ≠ record.session) :
    r.setLock record = (.error (.conflict (record.key.toText ++
      s!" is locked by session {held.session}, not {record.session}")), r.ran 2 r.rows) := by
  have hk := record.isNormal_key
  have hfound : find? r.rows record.key = some (LockMap.row record.key held) := by
    rw [h.found _ hk.subKey_ne, hm, Option.map_some]
  have hget : m.get record.key = some (LockMap.record record.key held) := by
    rw [LockMap.get, Key.folded_eq_self hk.subKey_ne, hm, Option.map_some]
  unfold setLock
  rw [execute_of_writable _ h.writable,
    upsert_of_foreign (Row.columns_ofRecord record) hfound foreign]
  simp only [(h.ran 1).get, hget]
  rfl

theorem setLock (h : r.Keeps m) {record : LockRecord} (storable : record.holding.IsStorable) :
    (r.setLock record).1 = (m.setLock record).1 ∧
      (r.setLock record).2.Keeps (m.setLock record).2 := by
  unfold LockMap.setLock
  cases hm : m[record.key]? with
  | none =>
    obtain ⟨hset, hkeeps⟩ := h.insert storable (by simp [hm])
    rw [hset]
    exact ⟨rfl, hkeeps⟩
  | some held =>
    by_cases hown : held.session = record.session
    · obtain ⟨hset, hkeeps⟩ := h.insert storable (by simp [hm, hown])
      rw [hset]
      dsimp only
      rw [if_pos hown]
      exact ⟨rfl, hkeeps⟩
    · rw [h.setLock_foreign hm hown]
      dsimp only
      rw [if_neg hown]
      exact ⟨rfl, h.ran 2⟩

/-- Removing the rows of one key removes its lock. -/
theorem erase (h : r.Keeps m) {p : Row → Bool} {k : Key}
    (gone : ∀ row, find? r.rows k = some row → p row = false)
    (others : ∀ row ∈ r.rows, row.columns ≠ Row.columnsOf k → p row = true)
    (hk : k.subKey ≠ some "") : (r.ran 1 (r.rows.filter p)).Keeps (m.erase k) := by
  refine ⟨h.available, nodup_columns_filter h.keyed p, ?_, ?_, ?_⟩
  · intro row hmem
    exact h.own row (List.mem_filter.1 hmem).1
  · intro k' hne
    rw [ran_rows, find?_filter h.keyed, Std.ExtTreeMap.getElem?_erase]
    by_cases hkey : k = k'
    · rw [if_pos (Key.compareStored_eq_eq_iff.2 hkey), Option.map_none,
        Option.filter_eq_none_iff]
      intro row hf
      rw [gone row (hkey ▸ hf)]
      exact nofun
    · rw [if_neg (mt Key.compareStored_eq_eq_iff.1 hkey), ← h.found k' hne]
      cases hf : find? r.rows k' with
      | none => rfl
      | some row =>
        obtain ⟨hmem, hcol⟩ := find?_eq_some hf
        refine Option.filter_some_pos (others row hmem ?_)
        rw [hcol, Ne, Row.columnsOf_inj hne hk]
        exact Ne.symm hkey
  · intro k' held hm
    rw [Std.ExtTreeMap.getElem?_erase] at hm
    split at hm
    · cases hm
    · exact h.kept k' held hm

theorem remove (h : r.Keeps m) (k : Key) :
    (r.remove k).1 = .ok () ∧ (r.remove k).2.Keeps (m.erase k.folded) := by
  unfold Registry.remove
  rw [execute_of_writable _ h.writable]
  refine ⟨rfl, h.erase (fun row hf => ?_) (fun row _ hcol => ?_) k.subKey_folded_ne⟩
  · rw [find?_folded] at hf
    simpa using (find?_eq_some hf).2
  · rw [Row.columnsOf_folded] at hcol
    simpa using hcol

/-- Where no row is that of the record, nothing is removed. -/
theorem removeIfUnchanged_none (h : r.Keeps m) {record : LockRecord}
    (none : ∀ row ∈ r.rows, isUnchanged record row = false) :
    r.removeIfUnchanged record = (.ok false, r.ran 1 r.rows) := by
  have hany : r.rows.any (isUnchanged record) = false := by
    rw [List.any_eq_false]
    intro row hrow
    rw [none row hrow]
    exact nofun
  have hfilter : r.rows.filter (fun row => !isUnchanged record row) = r.rows := by
    refine List.filter_eq_self.2 fun row hrow => ?_
    rw [none row hrow]
    rfl
  unfold Registry.removeIfUnchanged
  rw [execute_of_writable _ h.writable, hany, hfilter]

theorem removeIfUnchanged (h : r.Keeps m) (record : LockRecord) :
    (r.removeIfUnchanged record).1 = .ok (m.removeIfUnchanged record).1 ∧
      (r.removeIfUnchanged record).2.Keeps (m.removeIfUnchanged record).2 := by
  have hk := record.isNormal_key
  have hfound := h.found record.key hk.subKey_ne
  unfold LockMap.removeIfUnchanged
  cases hm : m[record.key]? with
  | none =>
    rw [hm, Option.map_none] at hfound
    rw [h.removeIfUnchanged_none fun row hrow => ?_]
    · exact ⟨rfl, h.ran 1⟩
    · by_contra hun
      have hrow' := (isUnchanged_iff h.keyed).1 ⟨hrow, by simpa using hun⟩
      rw [hfound] at hrow'
      cases hrow'.1
  | some held =>
    rw [hm, Option.map_some] at hfound
    by_cases hown : held.session = record.session ∧ held.handle = record.handle
    · obtain ⟨hrow, hun⟩ := (isUnchanged_iff h.keyed).2 ⟨hfound, hown⟩
      have hany : r.rows.any (isUnchanged record) = true := List.any_eq_true.2 ⟨_, hrow, hun⟩
      unfold Registry.removeIfUnchanged
      rw [execute_of_writable _ h.writable, hany]
      dsimp only
      rw [if_pos hown]
      refine ⟨rfl, h.erase (fun row hf => ?_) (fun row _ hcol => ?_) hk.subKey_ne⟩
      · rw [hfound, Option.some.injEq] at hf
        rw [← hf, hun]
        rfl
      · simp [isUnchanged, hcol]
    · rw [h.removeIfUnchanged_none fun row hrow => ?_]
      · dsimp only
        rw [if_neg hown]
        exact ⟨rfl, h.ran 1⟩
      · by_contra hun
        obtain ⟨hf, hsame⟩ := (isUnchanged_iff h.keyed).1 ⟨hrow, by simpa using hun⟩
        rw [hfound, Option.some.injEq] at hf
        rw [← hf] at hsame
        exact hown hsame

theorem clear (h : r.Keeps m) : (r.clear).1 = .ok m.size ∧ r.clear.2.Keeps ∅ := by
  unfold Registry.clear
  rw [execute_of_writable _ h.writable]
  have hlength := h.rows_perm.length_eq
  rw [List.length_map, Std.ExtTreeMap.length_toList] at hlength
  exact ⟨congrArg Except.ok hlength.symm, h.available, keeps_empty.keyed, keeps_empty.own,
    keeps_empty.found, keeps_empty.kept⟩

end Keeps

end Registry

/-! ### Requests -/

/-- What is set can be read back. -/
def LockRequest.IsStorable : LockRequest → Prop
  | setLock record => record.holding.IsStorable
  | _ => True

namespace Registry

/-- **Each request is answered as the map answers it**, and leaves the locks that the map then
has. -/
theorem Keeps.answer {r : Registry} {m : LockMap} (h : r.Keeps m) {q : LockRequest}
    (storable : q.IsStorable) :
    (q.answer r).1 = (q.answerByMap m).1 ∧ (q.answer r).2.Keeps (q.answerByMap m).2 := by
  cases q with
  | setLock record =>
    obtain ⟨hresult, hkeeps⟩ := h.setLock storable
    exact ⟨congrArg LockAnswer.done hresult, hkeeps⟩
  | get key =>
    rw [LockRequest.answer, h.get, LockRequest.answerByMap]
    exact ⟨rfl, h.ran 1⟩
  | getLock kind name subKey =>
    rw [LockRequest.answer, getLock, h.get, LockRequest.answerByMap]
    exact ⟨rfl, h.ran 1⟩
  | remove key =>
    obtain ⟨hresult, hkeeps⟩ := h.remove key
    exact ⟨congrArg LockAnswer.done hresult, hkeeps⟩
  | removeLock kind name subKey =>
    obtain ⟨hresult, hkeeps⟩ := h.remove (.make kind name subKey)
    rw [Key.folded_eq_self (Key.isNormal_make kind name subKey).subKey_ne] at hkeeps
    exact ⟨congrArg LockAnswer.done hresult, hkeeps⟩
  | removeIfUnchanged record =>
    obtain ⟨hresult, hkeeps⟩ := h.removeIfUnchanged record
    exact ⟨congrArg LockAnswer.removed hresult, hkeeps⟩
  | listLocks =>
    rw [LockRequest.answer, h.listLocks, LockRequest.answerByMap]
    exact ⟨rfl, h.ran 1⟩
  | scan =>
    rw [LockRequest.answer, h.scan, LockRequest.answerByMap]
    exact ⟨rfl, h.ran 1⟩
  | locksForSession session =>
    rw [LockRequest.answer, h.locksForSession, LockRequest.answerByMap]
    exact ⟨rfl, h.ran 1⟩
  | clear =>
    obtain ⟨hresult, hkeeps⟩ := h.clear
    exact ⟨congrArg LockAnswer.cleared hresult, hkeeps⟩

/-- **The registry is a map.** Whatever is asked of an empty registry, one request after the other,
it answers as the map does that takes the key of each object to its lock. Every list of locks that
it gives is in the strict order of the keys. -/
theorem answers_as_map (requests : List LockRequest) (storable : ∀ q ∈ requests, q.IsStorable) :
    answers LockRequest.answer requests {} = answers LockRequest.answerByMap requests ∅ ∧
      ∀ a ∈ answers LockRequest.answer requests {}, a.IsOrdered := by
  have hsame : answers LockRequest.answer requests {} =
      answers LockRequest.answerByMap requests ∅ :=
    answers_eq_of_simulates (fun _ _ _ hq hkeeps => hkeeps.answer hq) storable keeps_empty
  refine ⟨hsame, ?_⟩
  rw [hsame]
  exact forall_mem_answers LockRequest.isOrdered_answerByMap requests ∅

/-- Two sessions want one function module, which they spell differently; the second one then tries
to remove a lock that is not its own, and another that has no parent. -/
def contested : List LockRequest :=
  let early : Instant := ⟨-62167219200, 0⟩
  let late : Instant := ⟨253402300799, 999999999⟩
  let first : LockRecord := ⟨.functionModule, " z_read ", some "zgroup", "S1", "H1", early, 1⟩
  let second : LockRecord :=
    ⟨.functionModule, "Z_Read", some "ZGROUP ", "S2", "H2", late, 4294967295⟩
  [.setLock first, .setLock second, .setLock { second with subKey := some " " },
    .removeIfUnchanged { second with handle := "H1" }, .get ⟨.functionModule, "Z_READ", some ""⟩,
    .locksForSession "S1", .listLocks, .clear]

theorem contested_as_map : (∀ q ∈ contested, q.IsStorable) ∧
    answers LockRequest.answer contested {} = answers LockRequest.answerByMap contested ∅ ∧
      ∀ a ∈ answers LockRequest.answer contested {}, a.IsOrdered := by
  have storable : ∀ q ∈ contested, q.IsStorable := by
    intro q hq
    simp only [contested, List.mem_cons, List.not_mem_nil, or_false] at hq
    rcases hq with rfl | rfl | rfl | rfl | rfl | rfl | rfl | rfl
    · exact ⟨⟨by decide, by decide, by decide⟩, by decide⟩
    · exact ⟨⟨by decide, by decide, by decide⟩, by decide⟩
    · exact ⟨⟨by decide, by decide, by decide⟩, by decide⟩
    all_goals trivial
  exact ⟨storable, answers_as_map contested storable⟩

end Registry

end EditLock
