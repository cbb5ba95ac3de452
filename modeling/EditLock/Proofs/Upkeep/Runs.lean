/-
# Whole runs that show no secrets

What holds of the commands holds of whole runs of the program, from its arguments to its report: on
machines whose files and registries look like each other it prints the same, ends alike, and leaves
machines that look like each other. One command needs more: a sweep of locks compares whole handles,
and if a row stands under another key than its own, then whether it is removed tells whether two
handles are equal.

Key definitions: `FileTree.LooksLike`, `Machine.LooksLike`, `Machine.ComparesLike`.
Key theorems: `FileTree.LooksLike.place`, `FileTree.LooksLike.putDirectory`,
`Run.actsLike_openRegistry`, `UpkeepRequest.run_agrees`, `Machine.upkeep_conceals`.
-/
import EditLock.Proofs.Upkeep.Concealed

namespace EditLock

/-! ### Trees of files -/

namespace FileTree

/-- Trees with the same places, and entries there that look like each other. -/
structure LooksLike (t t' : FileTree) : Prop where
  here : t'.here = t.here
  entries : KeyedLike Entry.LooksLike t.entries t'.entries

variable {t t' : FileTree}

/-- The entries of one directory. -/
theorem children_looksLike {entries entries' : List (Place × Entry)}
    (h : KeyedLike Entry.LooksLike entries entries') (p : Place) :
    KeyedLike Entry.LooksLike (entries.filterMap (child? p)) (entries'.filterMap (child? p)) := by
  induction h with
  | nil => exact .nil
  | @cons f f' _ _ hf _ ih =>
    obtain ⟨q, e⟩ := f
    obtain ⟨_, e'⟩ := f'
    obtain ⟨rfl, he⟩ := hf
    rename_i q
    rw [List.filterMap_cons, List.filterMap_cons]
    unfold child?
    dsimp only
    cases q.getLast? with
    | none => exact ih
    | some name =>
      dsimp only
      split_ifs
      · exact .cons ⟨rfl, he⟩ ih
      · exact ih

/-- Whether an entry is one of a directory can be told by its place. -/
theorem isNone_child? (p q : Place) (e e' : Entry) :
    (child? p (q, e)).isNone = (child? p (q, e')).isNone := by
  unfold child?
  dsimp only
  cases q.getLast? with
  | none => rfl
  | some name =>
    dsimp only
    split_ifs <;> rfl

namespace LooksLike

theorem find? (h : t.LooksLike t') (p : Place) :
    Option.Rel Entry.LooksLike (t.find? p) (t'.find? p) := by
  unfold FileTree.find?
  split_ifs
  · exact .some (.same _)
  · exact h.entries.lookup p

theorem start (h : t.LooksLike t') (path : String) : t'.start path = t.start path := by
  unfold FileTree.start
  rw [h.here]

theorem step (h : t.LooksLike t') : t'.step = t.step := by
  funext p name
  have hfind := h.find? p
  unfold FileTree.step
  generalize t.find? p = found at hfind ⊢
  generalize t'.find? p = found' at hfind ⊢
  cases hfind with
  | none => rfl
  | some he => cases he <;> rfl

/-- A path leads to the same place. -/
theorem place (h : t.LooksLike t') (path : String) : t'.place path = t.place path := by
  unfold FileTree.place
  rw [h.step, h.start]

theorem directory (h : t.LooksLike t') (p : Place) :
    (t.directory p).LooksLike (t'.directory p) := by
  have hfind := h.find? p
  have hchildren := children_looksLike h.entries p
  unfold FileTree.directory
  generalize t.find? p = found at hfind ⊢
  generalize t'.find? p = found' at hfind ⊢
  cases hfind with
  | none => exact .missing
  | @some e _ he =>
    cases he with
    | text => exact .obstructed
    | same =>
      cases e with
      | directory => exact .present hchildren
      | _ => exact .obstructed

theorem directoryAt (h : t.LooksLike t') (path : String) :
    (t.directoryAt path).LooksLike (t'.directoryAt path) := by
  unfold FileTree.directoryAt
  rw [h.place]
  cases t.place path with
  | ok p => exact h.directory p
  | error e =>
    cases e with
    | notFound => exact .missing
    | _ => exact .obstructed

theorem set (h : t.LooksLike t') (p : Place) (e : Entry) : (t.set p e).LooksLike (t'.set p e) where
  here := h.here
  entries := (h.entries.filter fun _ _ _ => rfl).concat p (.same e)

/-- Directories are made alike on the way to a place. -/
theorem makeDirectories (h : t.LooksLike t') (path : String) :
    EndsLike (fun spot spot' => spot'.1 = spot.1 ∧ spot.2.LooksLike spot'.2)
      (t.makeDirectories path) (t'.makeDirectories path) := by
  unfold FileTree.makeDirectories
  rw [h.start]
  generalize t.start path = p
  -- Induction on the names that are left, for all trees: each of them may have been made anew.
  induction namesOf path generalizing p t t' with
  | nil => exact .ok ⟨rfl, h⟩
  | cons name names ih =>
    rw [List.foldlM_cons, List.foldlM_cons]
    refine EndsLike.bind (R := fun spot spot' => spot'.1 = spot.1 ∧ spot.2.LooksLike spot'.2) ?_ ?_
    · have hfind := h.find? (under p name)
      unfold makeStep
      dsimp only
      generalize t.find? (under p name) = found at hfind ⊢
      generalize t'.find? (under p name) = found' at hfind ⊢
      cases hfind with
      | none => exact .ok ⟨rfl, h.set _ _⟩
      | @some e _ he =>
        cases he with
        | text => exact .error _
        | same =>
          cases e with
          | directory => exact .ok ⟨rfl, h⟩
          | _ => exact .error _
    · rintro ⟨q, made⟩ ⟨q', made'⟩ ⟨rfl, hmade⟩
      exact ih hmade _

theorem putDirectory (h : t.LooksLike t') (path : String) {d d' : Directory}
    (hd : d.LooksLike d') : (t.putDirectory path d).LooksLike (t'.putDirectory path d') := by
  cases hd with
  | missing => exact h
  | obstructed => exact h
  | @present entries entries' hentries =>
    have hmade := h.makeDirectories path
    unfold FileTree.putDirectory
    generalize t.makeDirectories path = made at hmade ⊢
    generalize t'.makeDirectories path = made' at hmade ⊢
    cases hmade with
    | error e => exact h
    | @ok spot spot' hspot =>
      obtain ⟨p, made⟩ := spot
      obtain ⟨p', made'⟩ := spot'
      obtain ⟨rfl, hmade⟩ := hspot
      exact ⟨hmade.here, (hmade.entries.filter (isNone_child? p')).append
        (hentries.mapKeys fun name => p' ++ [name])⟩

end LooksLike

end FileTree

/-! ### Machines -/

namespace Machine

/-- Machines whose files and registries look like each other. -/
structure LooksLike (m m' : Machine) : Prop where
  files : m.files.LooksLike m'.files
  registries : KeyedLike Registry.LooksLike m.registries m'.registries

/-- Machines whose registries compare alike. -/
def ComparesLike (m m' : Machine) : Prop :=
  List.Forall₂ (fun e e' => e.2.ComparesLike e'.2) m.registries m'.registries

/-- Machines that look like each other, and also compare alike if that is called for. -/
structure Agrees (strict : Prop) (m m' : Machine) : Prop where
  files : m.files.LooksLike m'.files
  registries : KeyedLike (Registry.Agrees strict) m.registries m'.registries

variable {strict : Prop} {m m' : Machine}

theorem agrees_iff : m.Agrees strict m' ↔ m.LooksLike m' ∧ (strict → m.ComparesLike m') := by
  constructor
  · rintro ⟨hfiles, hregistries⟩
    refine ⟨⟨hfiles, hregistries.imp fun e e' h => ⟨h.1, (Registry.agrees_iff.1 h.2).1⟩⟩, ?_⟩
    exact fun hstrict => hregistries.imp fun e e' h => (Registry.agrees_iff.1 h.2).2 hstrict
  · rintro ⟨⟨hfiles, hlike⟩, hcompares⟩
    refine ⟨hfiles, List.forall₂_iff_zip.2 ⟨hlike.length_eq, fun hmem => ?_⟩⟩
    obtain ⟨hplace, hregistry⟩ := (List.forall₂_iff_zip.1 hlike).2 hmem
    refine ⟨hplace, Registry.agrees_iff.2 ⟨hregistry, fun hstrict => ?_⟩⟩
    exact (List.forall₂_iff_zip.1 (hcompares hstrict)).2 hmem

end Machine

namespace Run

variable {strict : Prop} {m m' : Machine}

theorem agrees_empty : Registry.Agrees strict {} {} :=
  ⟨[], ⟨rfl, rfl, rfl, rfl, nofun⟩, fun _ => nofun⟩

/-- There is nothing, or an empty file. -/
def isVacant : Option Entry → Bool
  | none => true
  | some (.text content) => content == ""
  | some _ => false

theorem isVacant_eq {found found' : Option Entry} (h : Option.Rel Entry.LooksLike found found') :
    isVacant found' = isVacant found := by
  cases h with
  | none => rfl
  | some he =>
    cases he with
    | same => rfl
    | text htext =>
      unfold isVacant
      rw [Bool.eq_iff_iff, beq_iff_eq, beq_iff_eq, htext.eq_empty_iff]

theorem registryAt_eq (p : Place) (m : Machine) :
    registryAt p m =
      if isVacant (m.files.find? p) then .ok {}
      else match m.registries.lookup p with
        | some r => .ok r
        | none => .error Registry.engineFailure := by
  unfold registryAt
  cases m.files.find? p with
  | none => rfl
  | some e =>
    cases e with
    | text content =>
      by_cases hempty : content = ""
      · subst hempty
        rfl
      · have hfilled : isVacant (some (.text content)) = false := beq_false_of_ne hempty
        rw [hfilled]
        split
        · rename_i heq
          cases heq
        · rename_i heq
          cases heq
          exact absurd rfl hempty
        · rfl
    | _ => rfl

theorem registryAt_agrees (h : m.Agrees strict m') (p : Place) :
    EndsLike (Registry.Agrees strict) (registryAt p m) (registryAt p m') := by
  have hlookup := h.registries.lookup p
  rw [registryAt_eq, registryAt_eq, isVacant_eq (h.files.find? p)]
  split_ifs
  · exact .ok agrees_empty
  · generalize m.registries.lookup p = stored at hlookup ⊢
    generalize m'.registries.lookup p = stored' at hlookup ⊢
    cases hlookup with
    | none => exact .error _
    | some hregistry => exact .ok hregistry

/-- On machines that agree the acts end alike, with values that are related, and leave machines that
agree. -/
def ActsLike {α β : Type} (strict : Prop) (R : α → β → Prop) (act : Run α) (act' : Run β) : Prop :=
  ∀ m m', Machine.Agrees strict m m' →
    RunsLike (EndsLike R) (Machine.Agrees strict) (act.run.run m) (act'.run.run m')

section Rules

variable {α β γ δ : Type} {R : α → β → Prop} {S : γ → δ → Prop}

theorem actsLike_pure {a : α} {b : β} (h : R a b) : ActsLike strict R (pure a) (pure b) :=
  fun _ _ hm => .mk (.ok h) hm

theorem actsLike_throw (e : Failure) : ActsLike strict R (throw e) (throw e) :=
  fun _ _ hm => .mk (.error e) hm

theorem actsLike_ofExcept {x : Except Failure α} {y : Except Failure β} (h : EndsLike R x y) :
    ActsLike strict R (ofExcept x) (ofExcept y) := by
  cases h with
  | error e => exact actsLike_throw e
  | ok h => exact actsLike_pure h

theorem actsLike_get : ActsLike strict (Machine.Agrees strict) get get :=
  fun _ _ hm => .mk (.ok hm) hm

theorem actsLike_modify {f g : Machine → Machine}
    (h : ∀ m m', Machine.Agrees strict m m' → Machine.Agrees strict (f m) (g m')) :
    ActsLike strict (fun _ _ => True) (modify f : Run Unit) (modify g : Run Unit) :=
  fun _ _ hm => .mk (.ok trivial) (h _ _ hm)

theorem ActsLike.bind {act : Run α} {act' : Run β} {f : α → Run γ} {g : β → Run δ}
    (h : ActsLike strict R act act') (hfg : ∀ a b, R a b → ActsLike strict S (f a) (g b)) :
    ActsLike strict S (act >>= f) (act' >>= g) := by
  intro m m' hm
  have hfirst := h m m' hm
  rw [ExceptT.run_bind, StateT.run_bind, ExceptT.run_bind, StateT.run_bind]
  generalize act.run.run m = done at hfirst ⊢
  generalize act'.run.run m' = done' at hfirst ⊢
  obtain ⟨hresult, hleft⟩ := hfirst
  cases hresult with
  | error e => exact .mk (.error e) hleft
  | ok hab => exact hfg _ _ hab _ _ hleft

end Rules

/-- Registries that are open at the same place and agree. -/
def OpenAgrees (strict : Prop) (o o' : OpenRegistry) : Prop :=
  o'.place = o.place ∧ o.registry.Agrees strict o'.registry

theorem actsLike_putRegistry {o o' : OpenRegistry} (h : OpenAgrees strict o o') :
    ActsLike strict (fun _ _ => True) (putRegistry o) (putRegistry o') := by
  refine actsLike_modify fun m m' hm => ?_
  rw [h.1]
  exact ⟨hm.files, (hm.registries.filter fun _ _ _ => rfl).concat _ h.2⟩

theorem actsLike_putStore {s s' : SessionStore} (h : s.LooksLike s') :
    ActsLike strict (fun _ _ => True) (putStore s) (putStore s') := by
  refine actsLike_modify fun m m' hm => ?_
  rw [h.path]
  exact ⟨hm.files.putDirectory _ h.dir, hm.registries⟩

theorem actsLike_store (path : String) :
    ActsLike strict SessionStore.LooksLike (store path) (store path) :=
  actsLike_get.bind fun _ _ hm => actsLike_pure ⟨rfl, hm.files.directoryAt path⟩

theorem actsLike_openRegistry (directory path : String) :
    ActsLike strict (OpenAgrees strict) (openRegistry directory path)
      (openRegistry directory path) := by
  refine actsLike_get.bind fun m m' hm => ?_
  have hmade := hm.files.makeDirectories directory
  generalize m.files.makeDirectories directory = made at hmade ⊢
  generalize m'.files.makeDirectories directory = made' at hmade ⊢
  cases hmade with
  | error e => exact actsLike_throw _
  | @ok spot spot' hspot =>
    obtain ⟨p, files⟩ := spot
    obtain ⟨p', files'⟩ := spot'
    obtain ⟨-, hfiles⟩ := hspot
    have hput : ∀ m m' : Machine, Machine.Agrees strict m m' →
        Machine.Agrees strict { m with files := files } { m' with files := files' } :=
      fun m m' hm => ⟨hfiles, hm.registries⟩
    refine (actsLike_modify hput).bind fun _ _ _ => ?_
    rw [hfiles.place]
    cases files.place path with
    | error e => exact actsLike_throw _
    | ok place =>
      refine actsLike_get.bind fun m m' hm => ?_
      refine (actsLike_ofExcept (registryAt_agrees hm place)).bind fun r r' hr => ?_
      have hset : ∀ m m' : Machine, Machine.Agrees strict m m' →
          Machine.Agrees strict { m with files := m.files.set place .binary }
            { m' with files := m'.files.set place .binary } :=
        fun m m' hm => ⟨hm.files.set _ _, hm.registries⟩
      refine (actsLike_modify hset).bind fun _ _ _ => ?_
      have hopen : OpenAgrees strict ⟨place, r⟩ ⟨place, r'⟩ := ⟨rfl, hr⟩
      exact (actsLike_putRegistry hopen).bind fun _ _ _ => actsLike_pure hopen

/-- What was opened is put back alike. -/
theorem actsLike_close {s s' : SessionStore} {o o' : OpenRegistry} (hs : s.LooksLike s')
    (ho : OpenAgrees strict o o') : ActsLike strict (fun _ _ => True) (close s o) (close s' o') :=
  (actsLike_putStore hs).bind fun _ _ _ => actsLike_putRegistry ho

end Run

/-! ### Whole runs -/

namespace UpkeepRequest

variable {strict : Prop} {m m' : Machine}

/-- What runs have opened under the same settings. -/
structure OpenedLike (strict : Prop) (x x' : Opened) : Prop where
  settings : x'.settings = x.settings
  store : x.store.LooksLike x'.store
  registry : Run.OpenAgrees strict x.registry x'.registry

/-- Opens all that is needed, under settings that were read. -/
def opening (settings : Except Failure Settings) (o : Occasion) : Run Opened := do
  let settings ← Run.ofExcept settings
  let store ← Run.store (settings.sessionDir o.environment)
  let registry ← Run.openRegistry (settings.lockDir o.environment)
    (settings.lockDbPath o.environment)
  return { settings, store, registry }

theorem run_open (q : UpkeepRequest) (o : Occasion) (m : Machine) :
    (q.open o).run.run m = (opening (q.settings m.files) o).run.run m :=
  rfl

theorem actsLike_opening (settings : Except Failure Settings) (o : Occasion) :
    Run.ActsLike strict (OpenedLike strict) (opening settings o) (opening settings o) := by
  refine (Run.actsLike_ofExcept (.refl settings)).bind fun settings _ hsame => ?_
  subst hsame
  refine (Run.actsLike_store _).bind fun store store' hstore => ?_
  refine (Run.actsLike_openRegistry _ _).bind fun registry registry' hregistry => ?_
  exact Run.actsLike_pure ⟨rfl, hstore, hregistry⟩

theorem open_agrees (q : UpkeepRequest) (o : Occasion) (h : m.Agrees strict m')
    (configured : q.storage.read m'.files = q.storage.read m.files) :
    RunsLike (EndsLike (OpenedLike strict)) (Machine.Agrees strict) ((q.open o).run.run m)
      ((q.open o).run.run m') := by
  have hsettings : q.settings m'.files = q.settings m.files := by
    unfold settings
    rw [configured]
  rw [run_open, run_open, hsettings]
  exact actsLike_opening (q.settings m.files) o m m' h

/-- **A run shows no secrets**, and leaves machines that agree. -/
theorem run_agrees (q : UpkeepRequest) (o : Occasion) (h : m.Agrees strict m')
    (configured : q.storage.read m'.files = q.storage.read m.files)
    (hstrict : q.command = .sweepLocks → strict) :
    RunsLike Eq (Machine.Agrees strict) (q.run o m) (q.run o m') := by
  have hopened := q.open_agrees o h configured
  unfold run
  generalize (q.open o).run.run m = done at hopened ⊢
  generalize (q.open o).run.run m' = done' at hopened ⊢
  obtain ⟨hresult, hleft⟩ := hopened
  cases hresult with
  | error e => exact .mk rfl hleft
  | @ok opened opened' hopened =>
    dsimp only
    rw [hopened.settings]
    cases opened.settings.staleAfter? with
    | none => exact .mk rfl hleft
    | some seconds =>
      have hbooks : Books.Agrees strict ⟨opened.store, opened.registry.registry⟩
          ⟨opened'.store, opened'.registry.registry⟩ := ⟨hopened.store, hopened.registry.2⟩
      have hperformed := q.command.perform_agrees
        { staleAfter := (seconds : Int) * 1000000000, probe := o.probe, now := o.now } hbooks hstrict
      dsimp only
      generalize q.command.perform _ ⟨opened.store, opened.registry.registry⟩ = performed
        at hperformed ⊢
      generalize q.command.perform _ ⟨opened'.store, opened'.registry.registry⟩ = performed'
        at hperformed ⊢
      obtain ⟨rfl, hafter⟩ := hperformed
      rename_i books books'
      refine .mk rfl ?_
      have hopen : Run.OpenAgrees strict { opened.registry with registry := books.registry }
          { opened'.registry with registry := books'.registry } :=
        ⟨hopened.registry.1, hafter.registry⟩
      exact (Run.actsLike_close hafter.store hopen _ _ hleft).left

end UpkeepRequest

/-- **The program shows no secrets.** On machines whose files and registries look like each other,
and whose settings read the same, a run prints the same lines and ends with the same status, and it
leaves machines that look like each other. Where locks are swept, the registries must also compare
alike, which runs preserve, and which rows written by setting locks always do
(`Registry.IsOrderly.comparesLike`). -/
theorem Machine.upkeep_conceals (version : String) (args : List String) (o : Occasion)
    (m m' : Machine) (like : m.LooksLike m')
    (configured : ∀ q, UpkeepRequest.read args = .ok q →
      q.storage.read m'.files = q.storage.read m.files)
    (compared : ∀ q, UpkeepRequest.read args = .ok q → q.command = .sweepLocks → m.ComparesLike m') :
    (runUpkeep version args o m').1 = (runUpkeep version args o m).1 ∧
      (runUpkeep version args o m).2.LooksLike (runUpkeep version args o m').2 ∧
      (m.ComparesLike m' →
        (runUpkeep version args o m).2.ComparesLike (runUpkeep version args o m').2) := by
  -- That the machines compare alike is carried along as a condition: one run then shows what it
  -- prints, where nothing is compared, and that the condition is kept.
  have hagrees : m.Agrees (m.ComparesLike m') m' := Machine.agrees_iff.2 ⟨like, id⟩
  have hrun : RunsLike Eq (Machine.Agrees (m.ComparesLike m')) (runUpkeep version args o m)
      (runUpkeep version args o m') := by
    unfold runUpkeep
    cases hread : UpkeepRequest.read args with
    | error stop => exact .mk rfl hagrees
    | ok q => exact q.run_agrees o hagrees (configured q hread) (compared q hread)
  have hleft := Machine.agrees_iff.1 hrun.left
  exact ⟨hrun.result.symm, hleft.1, hleft.2⟩

/-! ### A session with a secret and a lock of it -/

namespace Kept

/-- The store of a session. -/
def store (s : Session) : SessionStore :=
  ⟨"/data/sessions", .present [("s1.json", .text s.write)]⟩

/-- A machine with a session and the rows of a registry. -/
def machine (s : Session) (rows : List Row) : Machine where
  files :=
    { entries :=
        [(["data"], .directory), (["data", "sessions"], .directory),
         (["data", "sessions", "s1.json"], .text s.write), (["data", "locks"], .directory),
         (["data", "locks", "locks.db"], .binary)] }
  registries := [(["data", "locks", "locks.db"], { rows })]

/-- A minute after the session was created. -/
def occasion : Occasion where
  environment := { dataRoot := some "/data" }
  now := ⟨1700000060, 0⟩
  pid := 9
  probe _ := .inconclusive
  freshId := "s2"

/-- A session whose cookie and token are a secret. -/
def session (secret : String) : Session where
  id := "s1"
  cookies := "sap=" ++ secret
  token := some secret
  jar := [("sap", secret)]
  createdAt := ⟨1700000000, 0⟩
  updatedAt := ⟨1700000000, 0⟩
  pid := 7

/-- A lock of the session. -/
def lock (handle : String) (acquiredAt : Instant) : Row :=
  .ofRecord ⟨.objectClass, "ZA", none, "s1", handle, acquiredAt, 7⟩

theorem isStorable_session (secret : String) : (session secret).IsStorable := by
  have hcivil : Instant.IsCivil ⟨1700000000, 0⟩ :=
    ⟨by decide +kernel, by decide +kernel, by decide +kernel⟩
  have hpid : 7 ≤ Json.maxPid := by decide +kernel
  exact ⟨List.pairwise_singleton _ _, hcivil, hcivil, hpid⟩

theorem machine_looksLike (secret secret' : String) {rows rows' : List Row}
    (h : List.Forall₂ Row.LooksLike rows rows') :
    (machine (session secret) rows).LooksLike (machine (session secret') rows') where
  files :=
    { here := rfl
      entries :=
        have hsession : TextLooksLike (session secret).write (session secret').write :=
          .write (isStorable_session _) (isStorable_session _) ⟨rfl, rfl, rfl, rfl, rfl, rfl⟩
        .cons ⟨rfl, .same _⟩ (.cons ⟨rfl, .same _⟩ (.cons ⟨rfl, .text hsession⟩
          (.cons ⟨rfl, .same _⟩ (.cons ⟨rfl, .same _⟩ .nil)))) }
  registries := .cons ⟨rfl, rfl, rfl, h⟩ .nil

theorem lock_looksLike (acquiredAt : Instant) :
    (lock "HANDLE01A" acquiredAt).LooksLike (lock "HANDLE01B" acquiredAt) := by
  have hhandle : HandleLooksLike "HANDLE01A" "HANDLE01B" := .inr (by decide +kernel)
  exact ⟨rfl, hhandle⟩

theorem read_cleanup : UpkeepRequest.read ["locks", "cleanup"] = .ok { command := .sweepLocks } := by
  decide +kernel

/-- No settings are read from the files. -/
theorem configured (m m' : Machine) (q : UpkeepRequest)
    (h : UpkeepRequest.read ["locks", "cleanup"] = .ok q) :
    q.storage.read m'.files = q.storage.read m.files := by
  rw [read_cleanup] at h
  cases h
  rfl

/-- A row that was written by setting a lock is compared with itself. -/
theorem machine_comparesLike (s s' : Session) (acquiredAt : Instant) :
    (machine s [lock "HANDLE01A" acquiredAt]).ComparesLike
      (machine s' [lock "HANDLE01B" acquiredAt]) := by
  have horderly : Registry.IsOrderly { rows := [lock "HANDLE01A" acquiredAt] } :=
    { available := fun _ => rfl
      keyed := List.nodup_singleton _
      written := fun row hrow _ _ => ⟨_, List.mem_singleton.1 hrow⟩ }
  exact .cons (horderly.comparesLike ⟨rfl, rfl, .cons (lock_looksLike acquiredAt) .nil⟩) .nil

end Kept

open Kept in
/-- Another cookie, another token and another handle, with a stale lock that is swept. -/
theorem Machine.secrets_concealed :
    (machine (session "one") [lock "HANDLE01A" ⟨1500000000, 0⟩]).LooksLike
        (machine (session "two") [lock "HANDLE01B" ⟨1500000000, 0⟩]) ∧
      (runUpkeep "0.1.0" ["locks", "cleanup"] occasion
          (machine (session "two") [lock "HANDLE01B" ⟨1500000000, 0⟩])).1 =
        (runUpkeep "0.1.0" ["locks", "cleanup"] occasion
          (machine (session "one") [lock "HANDLE01A" ⟨1500000000, 0⟩])).1 ∧
      (runUpkeep "0.1.0" ["locks", "cleanup"] occasion
          (machine (session "one") [lock "HANDLE01A" ⟨1500000000, 0⟩])).2.LooksLike
        (runUpkeep "0.1.0" ["locks", "cleanup"] occasion
          (machine (session "two") [lock "HANDLE01B" ⟨1500000000, 0⟩])).2 := by
  have like := machine_looksLike "one" "two" (.cons (lock_looksLike ⟨1500000000, 0⟩) .nil)
  obtain ⟨hreport, hleft, -⟩ := upkeep_conceals "0.1.0" ["locks", "cleanup"] occasion _ _ like
    (configured _ _) fun _ _ _ => machine_comparesLike _ _ _
  exact ⟨like, hreport, hleft⟩

/-! ### A row under another key -/

/-- A sweep that finds nothing to remove removes nothing. -/
theorem Sweeper.sweepScanned_none {p : LockRecord → Bool} {rows : List Row}
    (h : ∀ row ∈ rows, ∀ record, row.decode = .ok record → p record = false) (r : Registry) :
    sweepScanned p (rows.map Row.decode) r = ([], r) := by
  induction rows with
  | nil => rfl
  | cons row rows ih =>
    have hrest := ih fun other hother => h other (List.mem_cons_of_mem row hother)
    rw [List.map_cons]
    cases hread : row.decode with
    | error e => exact hrest
    | ok record =>
      rw [sweepScanned, h row List.mem_cons_self record hread, if_neg Bool.false_ne_true, hrest]

theorem Sweeper.sweepLocks_none {p : LockRecord → Bool} {r : Registry} (hr : r.Readable)
    (h : ∀ row ∈ r.rows, ∀ record, row.decode = .ok record → p record = false) :
    (sweepLocks p r).1 = .ok [] := by
  unfold sweepLocks Registry.scan
  rw [Registry.query_of_readable _ hr]
  dsimp only
  rw [sweepScanned_none fun row hrow => h row ((Registry.sorted_perm _).mem_iff.1 hrow)]

/-- A sweep of rows that stand in their order. -/
theorem Sweeper.sweepLocks_of_sorted (p : LockRecord → Bool) {r : Registry} (hr : r.Readable)
    (h : Registry.sorted r.rows = r.rows) :
    sweepLocks p r =
      (.ok (sweepScanned p (r.rows.map Row.decode) (r.ran 1 r.rows)).1,
        (sweepScanned p (r.rows.map Row.decode) (r.ran 1 r.rows)).2) := by
  unfold sweepLocks Registry.scan
  rw [Registry.query_of_readable _ hr, h]

/-- What is reported once everything is open. -/
theorem UpkeepRequest.run_report {q : UpkeepRequest} {o : Occasion} {m left : Machine}
    {opened : Opened} {seconds : Nat} (hopen : (q.open o).run.run m = (.ok opened, left))
    (hstale : opened.settings.staleAfter? = some seconds) :
    (q.run o m).1 = report (q.command.perform
      { staleAfter := (seconds : Int) * 1000000000, probe := o.probe, now := o.now }
      ⟨opened.store, opened.registry.registry⟩).1 := by
  unfold run
  rw [hopen]
  dsimp only
  rw [hstale]

theorem UpkeepCommand.perform_sweepLocks (w : Sweeper) (b : Books) :
    (sweepLocks.perform w b).1 = (sweepRegistry w b.store b.registry).1.map removedLocks :=
  rfl

namespace Kept

/-- An old lock in a row whose name is not in its normal form. -/
def stray : Row :=
  { lock "HANDLE01A" ⟨1500000000, 0⟩ with name := "za" }

/-- What is stale after half an hour. -/
def sweeper : Sweeper where
  staleAfter := 1800000000000
  probe _ := .inconclusive
  now := ⟨1700000060, 0⟩

theorem opened (s : Session) (rows : List Row) :
    (({ command := .sweepLocks } : UpkeepRequest).open occasion).run.run (machine s rows) =
      (.ok ⟨{}, store s, ⟨["data", "locks", "locks.db"], { rows }⟩⟩, machine s rows) := by
  with_unfolding_all rfl

theorem cleanup_report (version : String) (s : Session) (rows : List Row) :
    (runUpkeep version ["locks", "cleanup"] occasion (machine s rows)).1 =
      UpkeepRequest.report ((UpkeepCommand.sweepRegistry sweeper (store s) { rows }).1.map
        UpkeepCommand.removedLocks) := by
  have hopen := opened s rows
  have hstale : Settings.staleAfter? {} = some 1800 := rfl
  unfold runUpkeep
  rw [read_cleanup]
  dsimp only
  rw [UpkeepRequest.run_report hopen hstale, UpkeepCommand.perform_sweepLocks]
  rfl

theorem readable (rows : List Row) (n : Nat) : Registry.Readable { rows, statements := n } :=
  fun h => nomatch h

theorem load_session (secret : String) :
    (store (session secret)).load "s1" = .ok (some (session secret)) := by
  have hvalid : SessionStore.isValidId "s1" = true := by decide +kernel
  have hread : (store (session secret)).dir.read (SessionStore.fileName "s1") =
      .ok (session secret).write := by
    with_unfolding_all rfl
  unfold SessionStore.load SessionStore.readRecord
  rw [hvalid, hread, if_neg Bool.noConfusion]
  dsimp only
  rw [Session.read?_write (isStorable_session secret)]

/-- No lock of the session is without it, so that only stale ones are swept. -/
theorem swept (secret : String) {rows left : List Row} {n : Nat} {removed : List LockRecord}
    (hstale : sweeper.staleLocks { rows } = (.ok removed, { rows := left, statements := n }))
    (h : ∀ row ∈ left, row.session = "s1") :
    (UpkeepCommand.sweepRegistry sweeper (store (session secret)) { rows }).1 = .ok removed := by
  have horphaned : (Sweeper.orphanedLocks (store (session secret))
      { rows := left, statements := n }).1 = .ok [] := by
    refine Sweeper.sweepLocks_none (readable left n) fun row hrow record hread => ?_
    have hsession : record.session = "s1" := (Row.decode_eq_ok hread).1.trans (h row hrow)
    unfold Sweeper.isOrphaned
    rw [hsession, load_session]
  unfold UpkeepCommand.sweepRegistry
  rw [hstale]
  dsimp only
  generalize Sweeper.orphanedLocks (store (session secret)) { rows := left, statements := n } = done
    at horphaned ⊢
  obtain ⟨result, after⟩ := done
  dsimp only at horphaned
  rw [horphaned]
  exact congrArg Except.ok (List.append_nil removed)

theorem sorted_stray (handle : String) :
    Registry.sorted [lock handle ⟨1700000000, 0⟩, stray] =
      [lock handle ⟨1700000000, 0⟩, stray] := by
  have hnames : (Row.compare (lock "" ⟨1700000000, 0⟩) stray).isLE := by decide +kernel
  exact List.mergeSort_of_pairwise (List.pairwise_pair.2 hnames)

/-- The lock has the handle of the stray row, and goes in its place. -/
theorem staleLocks_equal : sweeper.staleLocks { rows := [lock "HANDLE01A" ⟨1700000000, 0⟩, stray] } =
    (.ok [⟨.objectClass, "za", none, "s1", "HANDLE01A", ⟨1500000000, 0⟩, 7⟩],
      { rows := [stray], statements := 2 }) := by
  unfold Sweeper.staleLocks
  rw [Sweeper.sweepLocks_of_sorted _ (readable _ _) (sorted_stray _)]
  with_unfolding_all rfl

/-- The lock has another handle, and stays. -/
theorem staleLocks_other : sweeper.staleLocks { rows := [lock "HANDLE01B" ⟨1700000000, 0⟩, stray] } =
    (.ok [], { rows := [lock "HANDLE01B" ⟨1700000000, 0⟩, stray], statements := 2 }) := by
  unfold Sweeper.staleLocks
  rw [Sweeper.sweepLocks_of_sorted _ (readable _ _) (sorted_stray _)]
  with_unfolding_all rfl

end Kept

open Kept in
/-- A row under another key than its own tells whether the lock under that key has its handle. -/
theorem Machine.stray_tells_handles :
    (machine (session "one") [lock "HANDLE01A" ⟨1700000000, 0⟩, stray]).LooksLike
        (machine (session "one") [lock "HANDLE01B" ⟨1700000000, 0⟩, stray]) ∧
      (∀ q, UpkeepRequest.read ["locks", "cleanup"] = .ok q →
        q.storage.read (machine (session "one") [lock "HANDLE01B" ⟨1700000000, 0⟩, stray]).files =
          q.storage.read (machine (session "one") [lock "HANDLE01A" ⟨1700000000, 0⟩, stray]).files) ∧
      (runUpkeep "0.1.0" ["locks", "cleanup"] occasion
          (machine (session "one") [lock "HANDLE01B" ⟨1700000000, 0⟩, stray])).1 ≠
        (runUpkeep "0.1.0" ["locks", "cleanup"] occasion
          (machine (session "one") [lock "HANDLE01A" ⟨1700000000, 0⟩, stray])).1 := by
  have hrows : List.Forall₂ Row.LooksLike [lock "HANDLE01A" ⟨1700000000, 0⟩, stray]
      [lock "HANDLE01B" ⟨1700000000, 0⟩, stray] :=
    .cons (lock_looksLike _) (.cons ⟨rfl, .inl rfl⟩ .nil)
  refine ⟨machine_looksLike "one" "one" hrows, configured _ _, fun hsame => ?_⟩
  have hequal := swept "one" staleLocks_equal (by decide +kernel)
  have hother := swept "one" staleLocks_other (by decide +kernel)
  rw [cleanup_report, cleanup_report, hequal, hother] at hsame
  have hlines := congrArg (fun report => report.out.length) hsame
  cases hlines

end EditLock
