/-
# The rows of others

The rows of other objects, and those of other sessions, are foreign to a chain. A chain writes and
removes only records of its own object and session, so every operation leaves the foreign rows as
they are, all of them and in their order (`Chain.stable_foreignRows`). The one exception is a forced
release of a chain that holds no handle: it takes the row of its object, whoever owns it, and
removes the row if it still has the session and the handle that were looked up, whatever others did
to the registry in the meantime.

Key definitions: `Row.isForeign`, `Registry.foreignRows`, `Chain.forceUnlockAmid`.
Key theorems: `Registry.filter_isForeign_upsert`, `Registry.SetRun.foreignRows`,
`Registry.RemoveRun.foreignRows`, `Chain.stable_foreignRows`, `Chain.foreign_rows_stay`.
-/
import EditLock.Proofs.Chain.Calls
import EditLock.Proofs.Chain.MutualExclusion

namespace EditLock

variable {σ : Type}

/-- Whether a row is one of another object or of another session. -/
def Row.isForeign (k : Key) (session : String) (row : Row) : Bool :=
  row.columns != Row.columnsOf k || row.session != session

theorem Row.isForeign_eq_false_iff {k : Key} {session : String} {row : Row} :
    row.isForeign k session = false ↔ row.columns = Row.columnsOf k ∧ row.session = session := by
  simp [Row.isForeign]

namespace Registry

/-- The rows of other objects and of other sessions, in their order. -/
def foreignRows (k : Key) (session : String) (r : Registry) : List Row :=
  r.rows.filter (Row.isForeign k session)

variable {k : Key} {session : String} {record : LockRecord} {r r' : Registry}

/-- A row that is written takes the place of the one row under its key, if that is not foreign. -/
theorem filter_isForeign_upsert {row : Row} (keyed : r.Keyed)
    (hrow : row.isForeign k session = false) :
    (upsert row r.rows).2.filter (Row.isForeign k session) =
      r.rows.filter (Row.isForeign k session) := by
  obtain ⟨hkey, hsession⟩ := Row.isForeign_eq_false_iff.1 hrow
  unfold upsert
  split
  · simp [hrow]
  · rename_i old hfound
    by_cases hown : old.session = row.session
    · have hfind : find? r.rows k = some old := by
        unfold find?
        rw [← hkey]
        exact hfound
      have hold : old.isForeign k session = false :=
        Row.isForeign_eq_false_iff.2 ⟨(find?_eq_some hfind).2, hown.trans hsession⟩
      -- only the row that was found has these columns, and neither it nor the new one is foreign
      have hfree : ∀ other ∈ r.rows, other.columns = row.columns →
          other.isForeign k session = false := by
        intro other hmem hc
        rw [keyed.eq_of_find? hfind hmem (hc.trans hkey)]
        exact hold
      have hsame : ∀ other ∈ r.rows,
          (Row.isForeign k session ∘ fun other => if other.columns == row.columns then row else other)
            other = other.isForeign k session := by
        intro other hmem
        by_cases hc : other.columns = row.columns
        · simp [hc, hrow, hfree other hmem hc]
        · simp [hc]
      have hkept : ∀ other ∈ r.rows.filter (Row.isForeign k session),
          (if other.columns == row.columns then row else other) = id other := by
        intro other hmem
        obtain ⟨hother, hforeign⟩ := List.mem_filter.1 hmem
        by_cases hc : other.columns = row.columns
        · rw [hfree other hother hc] at hforeign
          cases hforeign
        · simp [hc]
      rw [if_pos hown, List.filter_map, List.filter_congr hsame, List.map_congr_left hkept,
        List.map_id]
    · rw [if_neg hown]

theorem SetRun.foreignRows {result : Except Failure Unit} (h : SetRun record r result r')
    (keyed : r.Keyed) (hkey : record.key = k) (hsession : record.session = session) :
    r'.foreignRows k session = r.foreignRows k session := by
  have hown : (Row.ofRecord record).isForeign k session = false :=
    Row.isForeign_eq_false_iff.2 ⟨congrArg Row.columnsOf hkey, hsession⟩
  cases h with
  | stored => exact filter_isForeign_upsert keyed hown
  | unwritable => rfl
  | taken => rfl

/-- A row that is removed has the key and the session of the record. -/
theorem isForeign_of_isUnchanged {row : Row} (h : isUnchanged record row = true) :
    row.isForeign record.key record.session = false := by
  simp only [isUnchanged, Bool.and_eq_true, beq_iff_eq] at h
  exact Row.isForeign_eq_false_iff.2 h.1

theorem RemoveRun.foreignRows {result : Except Failure Bool} (h : RemoveRun record r result r')
    (hkey : record.key = k) (hsession : record.session = session) :
    r'.foreignRows k session = r.foreignRows k session := by
  cases h with
  | removed =>
    show (r.rows.filter fun row => !isUnchanged record row).filter _ = r.rows.filter _
    rw [List.filter_filter]
    refine List.filter_congr fun row _ => ?_
    cases hu : isUnchanged record row with
    | false => simp
    | true =>
      have hown := isForeign_of_isUnchanged hu
      rw [hkey, hsession] at hown
      simp [hown]
  | unwritable => rfl

end Registry

namespace Chain

open Act Registry

variable (peer : Collaborator σ)

/-- A chain keeps the foreign rows, and one row for each object. -/
theorem stable_foreignRows (k : Key) (session : String) (rows : List Row) :
    Stable peer fun s => (s.chain.object.key = k ∧ s.chain.session = session) ∧
      s.registry.Keyed ∧ s.registry.foreignRows k session = rows := by
  refine stable_of_statements peer (P := fun o session' r => (o.key = k ∧ session' = session) ∧
    r.Keyed ∧ r.foreignRows k session = rows) ?_ ?_ fun hs => hs
  · intro _ _ _ _ _ _ hs hkey hsession written
    obtain ⟨⟨hk, hown⟩, keyed, hrows⟩ := hs
    have hsame := written.foreignRows keyed (hkey.trans hk) (hsession.trans hown)
    exact ⟨⟨hk, hown⟩, written.keyed keyed, hsame.trans hrows⟩
  · intro _ _ _ _ _ _ hs hkey hsession removal
    obtain ⟨⟨hk, hown⟩, keyed, hrows⟩ := hs
    have hsame := removal.foreignRows (hkey.trans hk) (hsession.trans hown)
    exact ⟨⟨hk, hown⟩, removal.keyed keyed, hsame.trans hrows⟩

variable {peer} {s : Scene σ}

/-- A forced release of a held lock is about a record of the chain's own. -/
theorem KnownLock.own {record : LockRecord} {looked : Registry} (known : KnownLock s record looked)
    (held : s.chain.handle ≠ none) :
    record.key = s.chain.object.key ∧ record.session = s.chain.session ∧ looked = s.registry := by
  cases known with
  | held => exact ⟨s.record_key _, rfl, rfl⟩
  | recorded free => exact absurd free held

theorem ForceRun.foreignRows {out : Except Failure ForceUnlock × Scene σ}
    (h : ForceRun peer s out) (held : s.chain.handle ≠ none) :
    out.2.registry.foreignRows s.chain.object.key s.chain.session =
      s.registry.foreignRows s.chain.object.key s.chain.session := by
  have hremoved {record : LockRecord} {looked registry : Registry} {result : Except Failure Bool}
      (known : KnownLock s record looked) (removal : RemoveRun record looked result registry) :
      registry.foreignRows s.chain.object.key s.chain.session =
        s.registry.foreignRows s.chain.object.key s.chain.session := by
    obtain ⟨hkey, hsession, rfl⟩ := known.own held
    exact removal.foreignRows hkey hsession
  cases h with
  | lookupFailed free => exact absurd free held
  | nothingHeld free => exact absurd free held
  | stuck known removal => exact hremoved known removal
  | unlocked known removal => exact hremoved known removal
  | unlockFailed known removal => exact hremoved known removal

/-! ### Forcing a release while others write -/

variable (peer)

/-- The lock that a forced release is about: the one that is held, or else the one recorded. -/
def lookUpLock : Act σ (Option LockRecord) := do
  let c ← Act.chain
  match c.handle with
  | some handle => some <$> ownRecord handle
  | none => consult (Registry.get c.object.key)

/-- A forced release, with others changing the registry after the lock was looked up, before its
record is removed. -/
def forceUnlockAmid (others : Registry → Registry) : Act σ ForceUnlock := do
  let looked ← outcome lookUpLock
  consult fun r => (.ok (), others r)
  match ← Act.ofExcept looked with
  | none =>
    setMode .stateless
    return .nothingHeld
  | some record => forceRelease peer record

/-- If nobody does, it is a forced release. -/
theorem forceUnlockAmid_id : forceUnlockAmid peer id = forceUnlock peer := by
  funext s
  show (forceUnlockAmid peer id).perform s = (forceUnlock peer).perform s
  rw [forceUnlock_eq]
  unfold forceUnlockAmid lookUpLock
  simp only [perform_bind, perform_chain, perform_outcome]
  cases s.chain.handle with
  | some handle => rfl
  | none =>
    simp only [perform_bind, perform_consult, perform_ofExcept]
    cases (s.registry.get s.chain.object.key).1 <;> rfl

variable {peer}

/-- The second half of a forced release tries to release the handle of the record, and removes at
most the row with the key, the session and the handle of the record. -/
theorem forceRelease_removes (record : LockRecord) (s : Scene σ) :
    (∃ e, ((forceRelease peer record).perform s).2.calls = s.calls ++ [e] ∧
      e.call = .unlock record.handle) ∧
    (((forceRelease peer record).perform s).2.registry.rows = s.registry.rows ∨
      ((forceRelease peer record).perform s).2.registry.rows =
        s.registry.rows.filter fun row => !isUnchanged record row) := by
  unfold forceRelease
  simp only [perform_bind, perform_setMode, perform_outcome]
  rw [perform_ask]
  simp only [perform_change, perform_consult, Scene.withChain_registry, Scene.asked_registry,
    Scene.routed_registry]
  have removal := removeRun record s.registry
  generalize Registry.removeIfUnchanged record s.registry = outcome at removal ⊢
  obtain ⟨result, registry⟩ := outcome
  have hrows : registry.rows = s.registry.rows ∨
      registry.rows = s.registry.rows.filter fun row => !isUnchanged record row := by
    cases removal with
    | removed => exact .inr rfl
    | unwritable => exact .inl rfl
  cases result with
  | error e => exact ⟨⟨_, rfl, rfl⟩, hrows⟩
  | ok any =>
    cases (s.routed .stateful).answer peer (.unlock record.handle) with
    | ok r => exact ⟨⟨_, rfl, rfl⟩, hrows⟩
    | error e => exact ⟨⟨_, rfl, rfl⟩, hrows⟩

theorem perform_forceUnlockAmid (free : s.chain.handle = none) (others : Registry → Registry) :
    (forceUnlockAmid peer others).perform s =
      match s.registry.get s.chain.object.key with
      | (.error e, r) => (.error e, s.withRegistry (others r))
      | (.ok none, r) => (.ok .nothingHeld, (s.withRegistry (others r)).routed .stateless)
      | (.ok (some record), r) => (forceRelease peer record).perform (s.withRegistry (others r)) := by
  unfold forceUnlockAmid lookUpLock
  simp only [perform_bind, perform_chain, perform_outcome, free, perform_consult,
    perform_ofExcept]
  generalize s.registry.get s.chain.object.key = looked
  obtain ⟨e | _ | record, r⟩ := looked <;> rfl

/-- A forced release that looks its lock up removes at most the row that still is as it was looked
up, after it tried to release the lock. -/
theorem forceUnlockAmid_removes (free : s.chain.handle = none) (others : Registry → Registry) :
    ((forceUnlockAmid peer others).perform s).2.registry.rows =
        (others (s.registry.get s.chain.object.key).2).rows ∨
      ∃ record, (s.registry.get s.chain.object.key).1 = .ok (some record) ∧
        (∃ e, ((forceUnlockAmid peer others).perform s).2.calls = s.calls ++ [e] ∧
          e.call = .unlock record.handle) ∧
        ((forceUnlockAmid peer others).perform s).2.registry.rows =
          (others (s.registry.get s.chain.object.key).2).rows.filter fun row =>
            !(row.columns == Row.columnsOf s.chain.object.key && row.session == record.session &&
              row.handle == record.handle) := by
  have hrun := getRun s.chain.object.key s.registry
  rw [perform_forceUnlockAmid free others]
  generalize s.registry.get s.chain.object.key = looked at hrun ⊢
  obtain ⟨result, r⟩ := looked
  cases hrun with
  | failed => exact .inl rfl
  | none => exact .inl rfl
  | @some _ row record found decoded =>
    have hkey : record.key = s.chain.object.key :=
      Row.key_of_decode decoded (find?_eq_some found).2 rfl
    have hremoves := @forceRelease_removes σ peer record
      (s.withRegistry (others (s.registry.ran 1 s.registry.rows)))
    obtain ⟨hcalls, hrows⟩ := hremoves
    rcases hrows with hrows | hrows
    · exact .inl hrows
    · refine .inr ⟨record, rfl, hcalls, hrows.trans ?_⟩
      rw [← hkey]
      rfl

/-- **The rows of others stay.** Whatever is answered and whichever statements fail, an operation
leaves each row of another object or another session as it is, unless it is a forced release of a
chain that holds no handle. Such a release leaves all rows as it meets them, or tried to release the
lock of the record that it had looked up for its object, and removes the row of the object that
still has the session and the handle of that record, whatever others did in between; if they did
nothing, it is the forced release as it stands. -/
theorem foreign_rows_stay (peer : Collaborator σ) (s : Scene σ) (keyed : s.registry.Keyed) :
    (∀ op : Operation, (op = .forceUnlock → s.chain.handle ≠ none) →
      ((op.act peer).perform s).2.registry.foreignRows s.chain.object.key s.chain.session =
        s.registry.foreignRows s.chain.object.key s.chain.session) ∧
    forceUnlockAmid peer id = forceUnlock peer ∧
    (s.chain.handle = none → ∀ others : Registry → Registry,
      ((forceUnlockAmid peer others).perform s).2.registry.rows =
          (others (s.registry.get s.chain.object.key).2).rows ∨
        ∃ record, (s.registry.get s.chain.object.key).1 = .ok (some record) ∧
          (∃ e, ((forceUnlockAmid peer others).perform s).2.calls = s.calls ++ [e] ∧
            e.call = .unlock record.handle) ∧
          ((forceUnlockAmid peer others).perform s).2.registry.rows =
            (others (s.registry.get s.chain.object.key).2).rows.filter fun row =>
              !(row.columns == Row.columnsOf s.chain.object.key && row.session == record.session &&
                row.handle == record.handle)) := by
  refine ⟨fun op hforce => ?_, forceUnlockAmid_id peer, forceUnlockAmid_removes⟩
  by_cases hop : op = .forceUnlock
  · have hrun := forceUnlock_run peer s
    rw [hop, Operation.act, perform_discard]
    exact hrun.foreignRows (hforce hop)
  · have hkept := (stable_foreignRows peer s.chain.object.key s.chain.session
      (s.registry.foreignRows s.chain.object.key s.chain.session)).keeps op
        fun h => absurd h hop
    exact (hkept.perform ⟨⟨rfl, rfl⟩, keyed, rfl⟩).2.2

/-- A chain whose object is recorded as locked by another session. -/
def ownedElsewhere : Scene Bool :=
  .blank (.make .program "zdemo") "S1"
    { rows := [⟨"program", "ZDEMO", "", "S2", "H2", "2024-01-01T00:00:00Z", 2⟩] } false

/-- A lock that is granted, cannot be recorded beside that row and is not released leaves it. -/
theorem ownedElsewhere_row_stays :
    ownedElsewhere.registry.Keyed ∧
      ((Operation.lock.act (.agreeing "H")).perform ownedElsewhere).2.registry.foreignRows
          ownedElsewhere.chain.object.key "S1" =
        ownedElsewhere.registry.foreignRows ownedElsewhere.chain.object.key "S1" := by
  have keyed : ownedElsewhere.registry.Keyed := by
    simp [Registry.Keyed, ownedElsewhere, Scene.blank]
  exact ⟨keyed, (foreign_rows_stay (.agreeing "H") ownedElsewhere keyed).1 .lock nofun⟩

end Chain

end EditLock
