/-
# Commands that show no secrets

A command that looks after the bookkeeping prints the same for books that look like each other, and
leaves books that do: what it shows and what it removes does not depend on cookies, on tokens, and on
the end of a handle. Only the sweep of locks compares whole handles, and needs books whose registries
compare alike.

Key definitions: `Registry.Agrees`, `Books.Agrees`.
Key theorems: `SessionStore.LooksLike.clear`, `Sweeper.sweepSessions_looksLike`,
`UpkeepCommand.perform_agrees`.
-/
import EditLock.Command.Upkeep
import EditLock.Proofs.Upkeep.Handles

namespace EditLock

/-! ### Sessions -/

section Sessions

variable {s s' : SessionStore}

theorem SessionStore.LooksLike.deleteAll (h : s.LooksLike s') (ids : List String) :
    RunsLike Eq LooksLike (SessionStore.deleteAll ids s) (SessionStore.deleteAll ids s') := by
  induction ids generalizing s s' with
  | nil => exact .mk rfl h
  | cons id ids ih =>
    have hdelete := h.delete id
    unfold SessionStore.deleteAll
    generalize s.delete id = done at hdelete ⊢
    generalize s'.delete id = done' at hdelete ⊢
    obtain ⟨rfl, hleft⟩ := hdelete
    rename_i removed left left'
    cases removed with
    | error e => exact .mk rfl hleft
    | ok any =>
      have hrest := ih hleft
      dsimp only
      generalize SessionStore.deleteAll ids left = rest at hrest ⊢
      generalize SessionStore.deleteAll ids left' = rest' at hrest ⊢
      obtain ⟨rfl, hend⟩ := hrest
      rename_i count _ _
      cases count with
      | error e => exact .mk rfl hend
      | ok n => exact .mk rfl hend

theorem SessionStore.LooksLike.clear (h : s.LooksLike s') :
    RunsLike Eq LooksLike s.clear s'.clear := by
  unfold SessionStore.clear
  rw [h.list]
  cases s.list with
  | error e => exact .mk rfl h
  | ok ids => exact h.deleteAll ids

namespace Sweeper

theorem sweepIds_looksLike (w : Sweeper) (p : SessionOrigin → Bool) (h : s.LooksLike s')
    (ids : List String) :
    RunsLike Eq SessionStore.LooksLike (w.sweepIds p ids s) (w.sweepIds p ids s') := by
  induction ids generalizing s s' with
  | nil => exact .mk rfl h
  | cons id ids ih =>
    have hdelete := h.delete id
    unfold sweepIds
    rw [h.metadata id w.now]
    split
    · split_ifs
      · generalize s.delete id = done at hdelete ⊢
        generalize s'.delete id = done' at hdelete ⊢
        obtain ⟨rfl, hleft⟩ := hdelete
        rename_i removed _ _
        have hrest := ih hleft
        cases removed with
        | error e => exact hrest
        | ok any =>
          cases any with
          | true => exact .mk (congrArg (id :: ·) hrest.result) hrest.left
          | false => exact hrest
      · exact ih h
    · exact ih h

theorem sweepSessions_looksLike (w : Sweeper) (p : SessionOrigin → Bool) (h : s.LooksLike s') :
    RunsLike Eq SessionStore.LooksLike (w.sweepSessions p s) (w.sweepSessions p s') := by
  unfold sweepSessions
  rw [h.list]
  cases s.list with
  | error e => exact .mk rfl h
  | ok ids =>
    have hswept := w.sweepIds_looksLike p h ids
    exact .mk (congrArg Except.ok hswept.result) hswept.left

/-- Whether its session is gone is the same for a record in either store. -/
theorem isOrphaned_eq (h : s.LooksLike s') {record record' : LockRecord}
    (hrecord : record.LooksLike record') :
    isOrphaned s' record' = isOrphaned s record := by
  have hload := h.load record.session
  unfold isOrphaned
  rw [hrecord.session]
  generalize s.load record.session = loaded at hload ⊢
  generalize s'.load record.session = loaded' at hload ⊢
  cases hload with
  | error e => rfl
  | ok hfound => cases hfound <;> rfl

end Sweeper

end Sessions

/-! ### Books -/

/-- Registries that look like each other, and also compare alike if that is called for. -/
def Registry.Agrees (strict : Prop) (r r' : Registry) : Prop :=
  ∃ zs, PairedBy zs r r' ∧ (strict → Compares zs)

theorem Registry.agrees_iff {strict : Prop} {r r' : Registry} :
    r.Agrees strict r' ↔ r.LooksLike r' ∧ (strict → r.ComparesLike r') := by
  constructor
  · rintro ⟨zs, hpair, hcompares⟩
    refine ⟨hpair.looksLike, fun hstrict => ?_⟩
    unfold ComparesLike
    rw [hpair.zip_eq]
    exact hcompares hstrict
  · rintro ⟨hlike, hcompares⟩
    exact ⟨_, hlike.pairedBy, hcompares⟩

/-- What statements leave of registries that agree agrees. -/
theorem Registry.PairedWithin.agrees {strict : Prop} {zs : List (Row × Row)} {r r' : Registry}
    (h : PairedWithin zs r r') (hcompares : strict → Compares zs) : r.Agrees strict r' := by
  obtain ⟨ys, hys, hpair⟩ := h
  exact ⟨ys, hpair, fun hstrict => (hcompares hstrict).mono hys⟩

/-- Books whose sessions look like each other and whose registries agree. -/
structure Books.Agrees (strict : Prop) (b b' : Books) : Prop where
  store : b.store.LooksLike b'.store
  registry : b.registry.Agrees strict b'.registry

/-- A sweep of registries that agree, if they compare alike, reports records that look like each
other. -/
theorem Sweeper.sweepLocks_agrees {strict : Prop} {p q : LockRecord → Bool}
    (hpq : ∀ record record' : LockRecord, record.LooksLike record' → q record' = p record)
    (hstrict : strict) {r r' : Registry} (h : r.Agrees strict r') :
    RunsLike (EndsLike (List.Forall₂ LockRecord.LooksLike)) (Registry.Agrees strict)
      (sweepLocks p r) (sweepLocks q r') := by
  obtain ⟨zs, hpair, hcompares⟩ := h
  have hswept := sweepLocks_pairs hpq (hcompares hstrict) hpair
  generalize sweepLocks p r = done at hswept ⊢
  generalize sweepLocks q r' = done' at hswept ⊢
  obtain ⟨hremoved, hafter⟩ := hswept
  exact .mk hremoved (hafter.agrees hcompares)

namespace UpkeepCommand

variable {strict : Prop} {s s' : SessionStore} {r r' : Registry}

/-! ### What is shown -/

theorem sessionLine_eq (h : s.LooksLike s') (now : Instant) :
    sessionLine s' now = sessionLine s now := by
  funext id
  unfold sessionLine
  rw [h.metadata id now]

theorem sessionView_eq {session session' : Session} (h : session.LooksLike session')
    (now : Instant) : sessionView session' now = sessionView session now := by
  have hnames : session'.jar.map (fun c => Json.text c.1) =
      session.jar.map fun c => Json.text c.1 := by
    have hmap := congrArg (List.map Json.text) h.names
    rwa [List.map_map, List.map_map] at hmap
  unfold sessionView Session.ageMillis
  rw [hnames, h.createdAt, h.token, h.pid, h.id, h.updatedAt]

theorem lockLine_eq {record record' : LockRecord} (h : record.LooksLike record') :
    lockLine record' = lockLine record := by
  unfold lockLine
  rw [h.key, h.session, h.acquiredAt, shortHandle_eq h.handle]

theorem lockLines_eq {records records' : List LockRecord}
    (h : List.Forall₂ LockRecord.LooksLike records records') :
    records'.map lockLine = records.map lockLine := by
  induction h with
  | nil => rfl
  | cons hfirst _ ih => rw [List.map_cons, List.map_cons, lockLine_eq hfirst, ih]

theorem removedLocks_eq {records records' : List LockRecord}
    (h : List.Forall₂ LockRecord.LooksLike records records') :
    removedLocks records' = removedLocks records := by
  unfold removedLocks
  rw [lockLines_eq h, h.length_eq]

/-! ### What is done -/

theorem sweepIf_looksLike (w : Sweeper) (wanted : Bool) (p : SessionOrigin → Bool)
    (h : s.LooksLike s') :
    RunsLike Eq SessionStore.LooksLike (sweepIf wanted (w.sweepSessions p) s)
      (sweepIf wanted (w.sweepSessions p) s') := by
  unfold sweepIf
  split_ifs
  · exact w.sweepSessions_looksLike p h
  · exact .mk rfl h

theorem sweepStore_looksLike (w : Sweeper) (dead stale : Bool) (h : s.LooksLike s') :
    RunsLike Eq SessionStore.LooksLike (sweepStore w dead stale s) (sweepStore w dead stale s') := by
  have hdead : RunsLike Eq SessionStore.LooksLike (sweepIf dead w.deadSessions s)
      (sweepIf dead w.deadSessions s') := sweepIf_looksLike w dead _ h
  unfold sweepStore
  generalize sweepIf dead w.deadSessions s = done at hdead ⊢
  generalize sweepIf dead w.deadSessions s' = done' at hdead ⊢
  obtain ⟨rfl, hleft⟩ := hdead
  rename_i gone left left'
  cases gone with
  | error e => exact .mk rfl hleft
  | ok gone =>
    have hstale : RunsLike Eq SessionStore.LooksLike (sweepIf stale w.staleSessions left)
        (sweepIf stale w.staleSessions left') := sweepIf_looksLike w stale _ hleft
    dsimp only
    generalize sweepIf stale w.staleSessions left = done at hstale ⊢
    generalize sweepIf stale w.staleSessions left' = done' at hstale ⊢
    obtain ⟨rfl, hend⟩ := hstale
    rename_i old _ _
    cases old with
    | error e => exact .mk rfl hend
    | ok old => exact .mk rfl hend

theorem sweepRegistry_agrees (w : Sweeper) (hstrict : strict) (hs : s.LooksLike s')
    (h : r.Agrees strict r') :
    RunsLike (EndsLike (List.Forall₂ LockRecord.LooksLike)) (Registry.Agrees strict)
      (sweepRegistry w s r) (sweepRegistry w s' r') := by
  have hstale : RunsLike (EndsLike (List.Forall₂ LockRecord.LooksLike)) (Registry.Agrees strict)
      (w.staleLocks r) (w.staleLocks r') :=
    Sweeper.sweepLocks_agrees (fun _ _ hrecord => by rw [hrecord.acquiredAt]) hstrict h
  unfold sweepRegistry
  generalize w.staleLocks r = done at hstale ⊢
  generalize w.staleLocks r' = done' at hstale ⊢
  obtain ⟨hresult, hleft⟩ := hstale
  rename_i left left'
  cases hresult with
  | error e => exact .mk (.error e) hleft
  | ok hremoved =>
    have horphaned : RunsLike (EndsLike (List.Forall₂ LockRecord.LooksLike))
        (Registry.Agrees strict) (Sweeper.orphanedLocks s left) (Sweeper.orphanedLocks s' left') :=
      Sweeper.sweepLocks_agrees (fun _ _ hrecord => Sweeper.isOrphaned_eq hs hrecord) hstrict hleft
    dsimp only
    generalize Sweeper.orphanedLocks s left = done at horphaned ⊢
    generalize Sweeper.orphanedLocks s' left' = done' at horphaned ⊢
    obtain ⟨hresult, hend⟩ := horphaned
    cases hresult with
    | error e => exact .mk (.error e) hend
    | ok hmore => exact .mk (.ok (List.rel_append hremoved hmore)) hend

theorem forget_agrees (key : Key) (h : r.Agrees strict r') :
    RunsLike Eq (Registry.Agrees strict) (forget key r) (forget key r') := by
  obtain ⟨zs, hpair, hcompares⟩ := h
  have hget := hpair.get key
  unfold forget
  generalize r.get key = done at hget ⊢
  generalize r'.get key = done' at hget ⊢
  obtain ⟨hfound, hleft⟩ := hget
  rename_i left left'
  cases hfound with
  | error e => exact .mk rfl (hleft.within.agrees hcompares)
  | ok hfound =>
    cases hfound with
    | none => exact .mk rfl (hleft.within.agrees hcompares)
    | some _ =>
      have hremove := hleft.remove key
      dsimp only
      generalize left.remove key = done at hremove ⊢
      generalize left'.remove key = done' at hremove ⊢
      obtain ⟨hresult, hend⟩ := hremove
      exact .mk hresult (hend.agrees hcompares)

/-- **A command shows no secrets**, and takes none into account, on books that look like each other,
and that compare alike if locks are to be swept. -/
theorem perform_agrees (c : UpkeepCommand) (w : Sweeper) {b b' : Books} (h : b.Agrees strict b')
    (hstrict : c = .sweepLocks → strict) :
    RunsLike Eq (Books.Agrees strict) (c.perform w b) (c.perform w b') := by
  unfold perform
  cases c with
  | listSessions =>
    refine .mk ?_ h
    rw [h.store.list, sessionLine_eq h.store]
  | inspectSession id =>
    refine .mk ?_ h
    have hload := h.store.load id
    generalize b.store.load id = loaded at hload ⊢
    generalize b'.store.load id = loaded' at hload ⊢
    cases hload with
    | error e => rfl
    | ok hfound =>
      cases hfound with
      | none => rfl
      | some hsession =>
        have hview := sessionView_eq hsession w.now
        exact congrArg (fun view => Except.ok [view.pretty]) hview.symm
  | sweepSessions dead stale =>
    have hswept := sweepStore_looksLike w dead stale h.store
    dsimp only
    generalize sweepStore w dead stale b.store = done at hswept ⊢
    generalize sweepStore w dead stale b'.store = done' at hswept ⊢
    obtain ⟨rfl, hleft⟩ := hswept
    exact .mk rfl ⟨hleft, h.registry⟩
  | clearSessions =>
    have hcleared := h.store.clear
    dsimp only
    generalize b.store.clear = done at hcleared ⊢
    generalize b'.store.clear = done' at hcleared ⊢
    obtain ⟨rfl, hleft⟩ := hcleared
    exact .mk rfl ⟨hleft, h.registry⟩
  | listLocks =>
    obtain ⟨zs, hpair, hcompares⟩ := h.registry
    have hlisted := hpair.listLocks
    dsimp only
    generalize b.registry.listLocks = done at hlisted ⊢
    generalize b'.registry.listLocks = done' at hlisted ⊢
    obtain ⟨hresult, hleft⟩ := hlisted
    refine .mk (hresult.map_eq fun _ _ hrecords => (lockLines_eq hrecords).symm) ⟨h.store, ?_⟩
    exact hleft.within.agrees hcompares
  | forgetLock key =>
    have hforgot := forget_agrees key h.registry
    dsimp only
    generalize forget key b.registry = done at hforgot ⊢
    generalize forget key b'.registry = done' at hforgot ⊢
    obtain ⟨rfl, hleft⟩ := hforgot
    exact .mk rfl ⟨h.store, hleft⟩
  | sweepLocks =>
    have hswept := sweepRegistry_agrees w (hstrict rfl) h.store h.registry
    dsimp only
    generalize sweepRegistry w b.store b.registry = done at hswept ⊢
    generalize sweepRegistry w b'.store b'.registry = done' at hswept ⊢
    obtain ⟨hresult, hleft⟩ := hswept
    exact .mk (hresult.map_eq fun _ _ hrecords => (removedLocks_eq hrecords).symm) ⟨h.store, hleft⟩

end UpkeepCommand

end EditLock
