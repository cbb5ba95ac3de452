/-
# An edit that is cut into invocations

A lock may be taken by one chain and used by others of the same session, which have nothing in
common with it but a row of the registry: one chain takes the lock, each of any number of chains
takes it up and writes a source, and a last one takes it up and releases it. In between the chains
of other sessions take turns as they like, but for forcing a release.

The row stays what it was (`Registry.Holds`): no other session writes over it or removes it, and a
chain of its own session only reads it until the last one releases the lock. So every one of these
chains takes up the same handle, and no other session takes a lock of the object.

Key definitions: `Fleet.eventsOf`, `Operation.under`, `CutEdit`, `Fleet.Awaits`.
Key theorems: `Fleet.holds_after`, `Fleet.untaken_of_foreign`, `Fleet.lock_of_granted`,
`Fleet.runWrite_of_holds`, `Fleet.unlock_of_holds`, `Fleet.turns_under`,
`Fleet.lock_outlasts_invocations`.
-/
import EditLock.Proofs.Chain.HeldLock
import EditLock.Proofs.Chain.Lifetime

namespace EditLock

open Act Registry

variable {σ ι : Type}

/-! ### What happens at turns -/

/-- What some events come to: the locks that were taken, and the calls that were made. -/
def LockEvent.summary (events : List LockEvent) : List String × List Call :=
  (events.filterMap taken?, (events.filterMap exchange?).map Exchange.call)

/-- What an operation comes to under a lock with this handle, as long as nothing fails: it takes the
lock or takes it up, and makes these calls. The edits below have none but the first four. -/
def Operation.under (handle : String) : Operation → List String × List Call
  | .lock => ([handle], [.lock])
  | .resumeLock => ([handle], [])
  | .runWrite source => ([handle], [.check .inactive (some source), .update handle source])
  | .unlock => ([], [.unlock handle])
  | _ => ([], [])

namespace Visit

variable (peer : Collaborator σ) (v : Visit σ) (c : Chain)

theorem taken?_events : (v.events peer c).filterMap LockEvent.taken? =
    (v.adopted? c).toList ++ (v.sceneAfter peer c).announced := by
  rw [events, List.filterMap_append, Scene.taken?_events]
  cases v.adopted? c <;> rfl

theorem exchange?_events :
    (v.events peer c).filterMap LockEvent.exchange? = (v.sceneAfter peer c).calls := by
  rw [events, List.filterMap_append, Scene.exchange?_events]
  cases v.adopted? c <;> rfl

end Visit

namespace Fleet

/-- The visit that a turn pays to its chain. -/
def visit (f : Fleet ι) (t : Turn ι σ) : Visit σ :=
  { operation := t.operation, registry := f.registry, remote := t.remote, now := t.now
    pid := t.pid }

/-- What happens at a turn. -/
def events (peer : Collaborator σ) (f : Fleet ι) (t : Turn ι σ) : List LockEvent :=
  (f.visit t).events peer (f.chains t.actor)

section Events

variable (peer : Collaborator σ) (f : Fleet ι) (t : Turn ι σ)

theorem taken?_events : (f.events peer t).filterMap LockEvent.taken? =
    ((f.visit t).adopted? (f.chains t.actor)).toList ++ (f.sceneAfter peer t).announced :=
  Visit.taken?_events ..

theorem exchange?_events :
    (f.events peer t).filterMap LockEvent.exchange? = (f.sceneAfter peer t).calls :=
  Visit.exchange?_events ..

theorem summary_events : LockEvent.summary (f.events peer t) =
    (((f.visit t).adopted? (f.chains t.actor)).toList ++ (f.sceneAfter peer t).announced,
      (f.sceneAfter peer t).calls.map Exchange.call) := by
  rw [LockEvent.summary, taken?_events, exchange?_events]

end Events

variable [DecidableEq ι]

/-- What happens at each turn that is taken by one of some chains. -/
def eventsOf (peer : Collaborator σ) (whose : Chain → Bool) (f : Fleet ι) :
    List (Turn ι σ) → List (List LockEvent)
  | [] => []
  | t :: turns =>
    (if whose (f.chains t.actor) then [f.events peer t] else []) ++
      (f.after peer t).eventsOf peer whose turns

end Fleet

/-- An edit of one object that a session cuts into invocations, each on a chain of its own: the
first takes the lock, others write under it, and the last takes it up and releases it. Between them
chains of other sessions take turns, but force no release. -/
structure CutEdit (f : Fleet ι) (session : String) (k : Key) (first : Turn ι σ)
    (between : List (Turn ι σ)) (last : Turn ι σ) (writes : List (ι × String)) : Prop where
  lock : first.operation = .lock
  unlock : last.operation = .unlock
  turns : (between.filter fun t => (f.chains t.actor).session == session).map
      (fun t => (t.actor, t.operation)) =
    writes.map (fun w => (w.1, .runWrite w.2)) ++ [(last.actor, .resumeLock)]
  unforced : ∀ t ∈ between, t.operation ≠ .forceUnlock
  actors : (first.actor :: writes.map Prod.fst ++ [last.actor]).Nodup
  unused : ∀ i ∈ first.actor :: writes.map Prod.fst ++ [last.actor],
    (f.chains i).Unused session k

/-! ### One turn -/

namespace Fleet

variable [DecidableEq ι] {peer : Collaborator σ} {f : Fleet ι} {t : Turn ι σ} {k : Key}
  {session handle : String}

/-- Every chain stays in its session and with its object. -/
theorem bound_after (peer : Collaborator σ) (f : Fleet ι) (ht : t.operation ≠ .forceUnlock)
    (i : ι) :
    ((f.after peer t).chains i).session = (f.chains i).session ∧
      ((f.after peer t).chains i).object = (f.chains i).object := by
  by_cases hi : i = t.actor
  · have hbound := sceneAfter_of_stable
      (Chain.stable_bound peer (f.chains t.actor).object (f.chains t.actor).session) ht ⟨rfl, rfl⟩
    rw [hi, after_chains_actor]
    exact hbound.symm
  · rw [after_chains_of_ne peer f t hi]
    exact ⟨rfl, rfl⟩

/-- A session's lock outlasts the turns of every other session. -/
theorem holds_after (peer : Collaborator σ) (holds : f.registry.Holds k session handle)
    (hforeign : (f.chains t.actor).session ≠ session) (ht : t.operation ≠ .forceUnlock) :
    (f.after peer t).registry.Holds k session handle := by
  obtain ⟨row, record, found, decoded, hsession, hhandle⟩ := holds.row
  have hrow : row.session ≠ (f.chains t.actor).session := by
    rw [← (Row.decode_eq_ok decoded).1, hsession]
    exact hforeign.symm
  have hkept := sceneAfter_of_stable (Chain.stable_foreign peer k row) ht ⟨found, hrow⟩
  have hkeyed := sceneAfter_of_stable (Chain.stable_keyed peer) ht holds.keyed
  have havailable := sceneAfter_of_stable
    (Chain.stable_availability peer f.registry.availability) ht rfl
  refine ⟨hkeyed, fun n => ?_, row, record, hkept.1, decoded, hsession, hhandle⟩
  rw [after_registry, havailable]
  exact holds.available n

omit [DecidableEq ι] in
/-- **No other session takes a lock of the object.** -/
theorem untaken_of_foreign (holds : f.registry.Holds k session handle)
    (hforeign : (f.chains t.actor).session ≠ session) (hkey : (f.chains t.actor).object.key = k)
    (ht : t.operation ≠ .forceUnlock) : (f.events peer t).filterMap LockEvent.taken? = [] := by
  obtain ⟨row, record, found, decoded, hsession, -⟩ := holds.row
  have hrow : row.session ≠ (f.chains t.actor).session := by
    rw [← (Row.decode_eq_ok decoded).1, hsession]
    exact hforeign.symm
  have hannounced := (sceneAfter_of_stable (Chain.stable_unannounced peer k row) ht
    ⟨⟨found, hrow⟩, hkey, rfl⟩).2.2
  have hadopted : (f.visit t).adopted? (f.chains t.actor) = none := by
    by_cases hop : t.operation.resumes = true
    · have hkey' : (f.scene t).chain.object.key = k := hkey
      rw [Visit.adopted?_of_resumes hop]
      exact Chain.resumeLock_of_foreign (s := f.scene t) (hkey' ▸ found) hrow
    · exact Visit.adopted?_of_not_resumes (Bool.not_eq_true _ ▸ hop)
  rw [taken?_events, hadopted]
  exact hannounced

omit [DecidableEq ι] in
/-- An operation that begins by taking up a recorded lock takes up that of the session. -/
theorem adopted?_of_holds (unused : (f.chains t.actor).Unused session k)
    (holds : f.registry.Holds k session handle) (hop : t.operation.resumes = true) :
    (f.visit t).adopted? (f.chains t.actor) = some handle := by
  have hresumed := Chain.perform_resumeLock_of_holds (s := f.scene t) unused holds
  rw [Visit.adopted?_of_resumes hop]
  exact congrArg (·.1.toOption) hresumed

/-- **A session takes up its lock and writes under it.** -/
theorem runWrite_of_holds {source : String} (unused : (f.chains t.actor).Unused session k)
    (holds : f.registry.Holds k session handle) (hop : t.operation = .runWrite source)
    (answered : ∀ e ∈ (f.events peer t).filterMap LockEvent.exchange?, e.isAnswered = true) :
    LockEvent.summary (f.events peer t) = t.operation.under handle ∧
      (f.after peer t).registry.Holds k session handle := by
  have hadopted := adopted?_of_holds unused holds (by rw [hop]; rfl)
  have hafter : f.sceneAfter peer t = ((Chain.runWrite peer source).perform (f.scene t)).2 := by
    rw [sceneAfter, hop]
    rfl
  have hleads : Act.Leads (· = f.scene t) (Chain.runWrite peer source) _ _ :=
    Chain.runWrite_under unused holds source
  have hend : Chain.Writing (f.scene t) handle .updated
      [.check .inactive (some source), .update handle source] (f.sceneAfter peer t) ∨
      Chain.Unanswered (f.sceneAfter peer t) := by
    rw [hafter]
    exact hleads.either rfl
  rw [exchange?_events] at answered
  rcases hend with hwritten | ⟨e, he, hunanswered⟩
  · refine ⟨?_, ?_⟩
    · have hannounced : (f.sceneAfter peer t).announced = [] := hwritten.announced
      have hcalls := hwritten.calls
      rw [summary_events, hadopted, hop]
      exact Prod.ext (congrArg ([handle] ++ ·) hannounced) hcalls
    · rw [after_registry, hwritten.registry]
      exact holds.ran 1
  · exact nomatch (answered e he).symm.trans hunanswered

/-- A session takes up its lock and holds it. -/
theorem resumeLock_of_holds (peer : Collaborator σ) (unused : (f.chains t.actor).Unused session k)
    (holds : f.registry.Holds k session handle) (hop : t.operation = .resumeLock) :
    LockEvent.summary (f.events peer t) = t.operation.under handle ∧
      (f.after peer t).registry.Holds k session handle ∧
      ((f.after peer t).chains t.actor).Locked session handle k := by
  have hresumed := Chain.perform_resumeLock_of_holds (s := f.scene t) unused holds
  have hadopted := adopted?_of_holds unused holds (by rw [hop]; rfl)
  have hafter : f.sceneAfter peer t =
      ((f.scene t).withRegistry (f.registry.ran 1 f.registry.rows)).withChain fun c =>
        { c with mode := .stateful, handle := some handle, stage := .locked } := by
    rw [sceneAfter, hop]
    exact (Act.perform_discard _ _).trans (congrArg Prod.snd hresumed)
  refine ⟨?_, ?_, ?_⟩
  · rw [summary_events, hadopted, hafter, hop]
    rfl
  · rw [after_registry, hafter]
    exact holds.ran 1
  · rw [after_chains_actor, hafter]
    exact ⟨rfl, rfl, unused.session, unused.key⟩

/-- **A session releases its lock, and the object's row is gone.** -/
theorem unlock_of_holds (locked : (f.chains t.actor).Locked session handle k)
    (holds : f.registry.Holds k session handle) (hop : t.operation = .unlock)
    (answered : ∀ e ∈ (f.events peer t).filterMap LockEvent.exchange?, e.isAnswered = true) :
    LockEvent.summary (f.events peer t) = t.operation.under handle ∧
      find? (f.after peer t).registry.rows k = none := by
  have hafter : f.sceneAfter peer t = ((Chain.unlock peer).perform (f.scene t)).2 := by
    rw [sceneAfter, hop]
    exact Act.perform_discard _ _
  have hadopted : (f.visit t).adopted? (f.chains t.actor) = none :=
    Visit.adopted?_of_not_resumes (by rw [show (f.visit t).operation = .unlock from hop]; rfl)
  have hrun := Chain.unlock_run peer (f.scene t)
  rw [exchange?_events] at answered
  rw [summary_events, hadopted, after_registry, hop]
  rw [hafter] at answered ⊢
  generalize (Chain.unlock peer).perform (f.scene t) = out at hrun answered ⊢
  have hstage : (f.scene t).chain.stage = .locked := locked.stage
  have hheld : (f.scene t).chain.handle = some handle := locked.handle
  cases hrun with
  | rejected why =>
    rw [hstage, hheld] at why
    rcases why with horder | hnone
    · cases horder
    · cases hnone
  | @refused _ other e _ held answer =>
    have hunanswered := answered
      ⟨.unlock other, (f.scene t).chain.mode, (f.scene t).answer peer (.unlock other)⟩ (by simp)
    rw [Exchange.isAnswered, answer] at hunanswered
    cases hunanswered
  | released _ held _ removal =>
    obtain rfl := Option.some.inj (hheld.symm.trans held)
    have hkey : ((f.scene t).record handle).key = k := (Scene.record_key ..).trans locked.key
    have hsession : ((f.scene t).record handle).session = session := locked.session
    have hholds : (f.scene t).registry.Holds ((f.scene t).record handle).key
        ((f.scene t).record handle).session ((f.scene t).record handle).handle := by
      rw [hkey, hsession]
      exact holds
    have hgone := hholds.removed removal
    rw [hkey] at hgone
    exact ⟨rfl, hgone⟩

/-- **A session takes the lock, and it is recorded.** -/
theorem lock_of_granted (unused : (f.chains t.actor).Unused session k)
    (keyed : f.registry.Keyed) (available : ∀ n, f.registry.availability n = .available)
    (civil : t.now.IsCivil) (pid : t.pid ≤ Json.maxPid) (hop : t.operation = .lock)
    (granted : ((Chain.lock peer).perform (f.scene t)).1 = .ok handle) :
    LockEvent.summary (f.events peer t) = t.operation.under handle ∧
      (f.after peer t).registry.Holds k session handle := by
  have hafter : f.sceneAfter peer t = ((Chain.lock peer).perform (f.scene t)).2 := by
    rw [sceneAfter, hop]
    exact Act.perform_discard _ _
  have hadopted : (f.visit t).adopted? (f.chains t.actor) = none :=
    Visit.adopted?_of_not_resumes (by rw [show (f.visit t).operation = .lock from hop]; rfl)
  have hrun := Chain.lock_run peer (f.scene t)
  rw [summary_events, hadopted, after_registry, hop, hafter]
  generalize (Chain.lock peer).perform (f.scene t) = out at hrun granted ⊢
  cases hrun with
  | rejected => cases granted
  | refused => cases granted
  | unrecorded => cases granted
  | recorded order answer written =>
    cases granted
    refine ⟨rfl, written.keyed keyed, fun n => ?_, ?_⟩
    · cases written
      exact available n
    · refine ⟨.ofRecord ((f.scene t).record handle), _, ?_, Row.decode_ofRecord civil pid, ?_, rfl⟩
      · have hfound := find?_of_setRun written
        rw [Scene.record_key, show (f.scene t).chain.object.key = k from unused.key] at hfound
        exact hfound
      · exact unused.session

/-! ### All turns -/

/-- What a session has still to do once it has taken the lock: these operations, on these chains. In
the end the last chain holds the lock. -/
inductive Awaits (f : Fleet ι) (session handle : String) (k : Key) (last : ι) :
    List (ι × Operation) → Prop
  | done : (f.chains last).Locked session handle k → Awaits f session handle k last []
  | resume : (f.chains last).Unused session k →
      Awaits f session handle k last [(last, .resumeLock)]
  | write {i : ι} {source : String} {rest : List (ι × Operation)} :
      (f.chains i).Unused session k → i ∉ last :: rest.map Prod.fst →
      Awaits f session handle k last rest →
      Awaits f session handle k last ((i, .runWrite source) :: rest)

section Turns

variable {last : ι} {operations : List (ι × Operation)}

omit [DecidableEq ι] in
theorem Awaits.bound (h : f.Awaits session handle k last operations) :
    ∀ i ∈ last :: operations.map Prod.fst, (f.chains i).session = session := by
  induction h with
  | done locked => simpa using locked.session
  | resume unused => simpa using unused.session
  | write unused _ _ ih =>
    intro i hi
    simp only [List.map_cons, List.mem_cons] at hi ih
    rcases hi with rfl | rfl | hi
    · exact ih i (.inl rfl)
    · exact unused.session
    · exact ih i (.inr hi)

omit [DecidableEq ι] in
/-- Only the chains that are still to come matter. -/
theorem Awaits.congr {f' : Fleet ι} (h : f.Awaits session handle k last operations)
    (hsame : ∀ i ∈ last :: operations.map Prod.fst, f'.chains i = f.chains i) :
    f'.Awaits session handle k last operations := by
  induction h with
  | done locked =>
    rw [← hsame last (by simp)] at locked
    exact .done locked
  | resume unused =>
    rw [← hsame last (by simp)] at unused
    exact .resume unused
  | @write i _ _ unused hfresh _ ih =>
    rw [← hsame i (by simp)] at unused
    refine .write unused hfresh (ih fun j hj => hsame j ?_)
    simp only [List.map_cons, List.mem_cons] at hj ⊢
    exact hj.imp_right .inr

/-- **The lock of a session through the turns of all.** Each chain of the session takes up the
handle and does what it should under it; no other session takes a lock of the object. -/
theorem turns_under (peer : Collaborator σ) {between : List (Turn ι σ)}
    (holds : f.registry.Holds k session handle)
    (awaits : f.Awaits session handle k last operations)
    (unforced : ∀ t ∈ between, t.operation ≠ .forceUnlock)
    (turns : (between.filter fun t => (f.chains t.actor).session == session).map
      (fun t => (t.actor, t.operation)) = operations)
    (answered : ∀ events ∈ f.eventsOf peer (·.session == session) between,
      ∀ e ∈ events.filterMap LockEvent.exchange?, e.isAnswered = true) :
    (f.eventsOf peer (·.session == session) between).map LockEvent.summary =
        operations.map (fun operation => operation.2.under handle) ∧
      (∀ events ∈ f.eventsOf peer (fun c => c.session != session && c.object.key == k) between,
        events.filterMap LockEvent.taken? = []) ∧
      (f.afterAll peer between).registry.Holds k session handle ∧
      (f.afterAll peer between).Awaits session handle k last [] := by
  induction between generalizing f operations with
  | nil =>
    cases turns
    exact ⟨rfl, by simp [eventsOf], holds, awaits⟩
  | cons t between ih =>
    have ht := unforced t (by simp)
    have hlater : ∀ t ∈ between, t.operation ≠ .forceUnlock :=
      fun t ht => unforced t (List.mem_cons_of_mem _ ht)
    have hfilter : (between.filter fun u => ((f.after peer t).chains u.actor).session == session) =
        between.filter fun u => (f.chains u.actor).session == session := by
      refine List.filter_congr fun u _ => ?_
      rw [(bound_after peer f ht u.actor).1]
    have hafter : f.afterAll peer (t :: between) = (f.after peer t).afterAll peer between := rfl
    rw [hafter]
    by_cases hown : (f.chains t.actor).session = session
    · simp only [eventsOf, hown, beq_self_eq_true, if_true, bne_self_eq_false, Bool.false_and,
        Bool.false_eq_true, if_false, List.nil_append, List.singleton_append, List.map_cons,
        List.forall_mem_cons, List.filter_cons] at turns answered ⊢
      rw [← hfilter] at turns
      cases awaits with
      | done => cases turns
      | resume unused =>
        obtain ⟨hhead, hrest⟩ := List.cons.inj turns
        obtain ⟨rfl, hop⟩ := Prod.mk.inj hhead
        have ⟨hsummary, hholds, hlocked⟩ := resumeLock_of_holds peer unused holds hop
        have ⟨hown, hforeign, hend⟩ := ih hholds (.done hlocked) hlater hrest answered.2
        rw [hsummary, hown, hop]
        exact ⟨rfl, hforeign, hend⟩
      | write unused hfresh rest =>
        obtain ⟨hhead, hrest⟩ := List.cons.inj turns
        obtain ⟨rfl, hop⟩ := Prod.mk.inj hhead
        have ⟨hsummary, hholds⟩ := runWrite_of_holds unused holds hop answered.1
        have hawaits : (f.after peer t).Awaits session handle k last _ := rest.congr fun i hi =>
          after_chains_of_ne peer f t fun hsame => hfresh (hsame ▸ hi)
        have ⟨hown, hforeign, hend⟩ := ih hholds hawaits hlater hrest answered.2
        rw [hsummary, hown, hop]
        exact ⟨rfl, hforeign, hend⟩
    · have hholds := holds_after peer holds hown ht
      have hawaits : (f.after peer t).Awaits session handle k last operations :=
        awaits.congr fun i hi => after_chains_of_ne peer f t fun hsame =>
          hown (hsame ▸ awaits.bound i hi)
      have hother : ((f.chains t.actor).session == session) = false := by simpa using hown
      simp only [eventsOf, hother, Bool.false_eq_true, if_false, List.nil_append, List.filter_cons,
        bne, Bool.not_false, Bool.true_and] at turns answered ⊢
      rw [← hfilter] at turns
      have ⟨hsummary, hforeign, hend⟩ := ih hholds hawaits hlater turns answered
      refine ⟨hsummary, fun events hevents => ?_, hend⟩
      rcases List.mem_append.1 hevents with hhere | hrest
      · by_cases hkey : (f.chains t.actor).object.key = k
        · simp only [hkey, beq_self_eq_true, if_true, List.mem_singleton] at hhere
          rw [hhere]
          exact untaken_of_foreign holds hown hkey ht
        · simp [hkey] at hhere
      · exact hforeign events hrest

theorem eventsOf_append (peer : Collaborator σ) (whose : Chain → Bool) (f : Fleet ι)
    (turns later : List (Turn ι σ)) : f.eventsOf peer whose (turns ++ later) =
      f.eventsOf peer whose turns ++ (f.afterAll peer turns).eventsOf peer whose later := by
  induction turns generalizing f with
  | nil => rfl
  | cons t turns ih =>
    rw [List.cons_append, eventsOf, ih, eventsOf, List.append_assoc]
    rfl

/-- What happens at a first turn, at those in between, and at a last. -/
theorem eventsOf_around (peer : Collaborator σ) (whose : Chain → Bool) (f : Fleet ι)
    (first : Turn ι σ) (between : List (Turn ι σ)) (last : Turn ι σ) :
    f.eventsOf peer whose (first :: between ++ [last]) =
      f.eventsOf peer whose [first] ++ (f.after peer first).eventsOf peer whose between ++
        ((f.after peer first).afterAll peer between).eventsOf peer whose [last] := by
  have hhead := eventsOf_append peer whose f [first] (between ++ [last])
  have htail := eventsOf_append peer whose (f.after peer first) between [last]
  exact hhead.trans ((congrArg _ htail).trans (List.append_assoc ..).symm)

theorem eventsOf_singleton {whose : Chain → Bool} (h : whose (f.chains t.actor) = true) :
    f.eventsOf peer whose [t] = [f.events peer t] := by
  simp [eventsOf, h]

theorem eventsOf_singleton_of_not {whose : Chain → Bool}
    (h : whose (f.chains t.actor) = false) : f.eventsOf peer whose [t] = [] := by
  simp [eventsOf, h]

omit [DecidableEq ι] in
/-- Chains that have done nothing yet, each its own, may write in any number before the last. -/
theorem awaits_of_unused {last : ι} {writes : List (ι × String)}
    (unused : ∀ i ∈ writes.map Prod.fst ++ [last], (f.chains i).Unused session k)
    (distinct : (writes.map Prod.fst ++ [last]).Nodup) :
    f.Awaits session handle k last
      (writes.map (fun w => (w.1, .runWrite w.2)) ++ [(last, .resumeLock)]) := by
  induction writes with
  | nil => exact .resume (unused last (by simp))
  | cons w writes ih =>
    simp only [List.map_cons, List.cons_append, List.forall_mem_cons, List.nodup_cons]
      at unused distinct
    refine .write unused.1 ?_ (ih unused.2 distinct.2)
    have hactors : (writes.map (fun w => (w.1, Operation.runWrite w.2)) ++
        [(last, Operation.resumeLock)]).map Prod.fst = writes.map Prod.fst ++ [last] := by
      simp [Function.comp_def]
    show w.1 ∉ last :: (writes.map (fun w => (w.1, Operation.runWrite w.2)) ++
      [(last, Operation.resumeLock)]).map Prod.fst
    rw [hactors, List.mem_cons, not_or]
    refine ⟨fun hlast => distinct.1 ?_, distinct.1⟩
    rw [hlast]
    exact List.mem_append_right _ (List.mem_singleton_self last)

/-- After the first turn of an edit, its writes and the last chain are still to come. -/
theorem awaits_of_cut {first last : Turn ι σ} {between : List (Turn ι σ)}
    {writes : List (ι × String)} (cut : CutEdit f session k first between last writes) :
    (f.after peer first).Awaits session handle k last.actor
      (writes.map (fun w => (w.1, .runWrite w.2)) ++ [(last.actor, .resumeLock)]) := by
  have hactors := cut.actors
  simp only [List.cons_append, List.nodup_cons] at hactors
  refine awaits_of_unused (fun i hi => ?_) hactors.2
  rw [after_chains_of_ne peer f first fun hsame => hactors.1 (hsame ▸ hi)]
  exact cut.unused i (List.mem_cons_of_mem _ hi)

/-- The turns in between are those of the same chains after the first turn. -/
theorem turns_of_cut {first last : Turn ι σ} {between : List (Turn ι σ)}
    {writes : List (ι × String)} (cut : CutEdit f session k first between last writes) :
    (between.filter fun t => ((f.after peer first).chains t.actor).session == session).map
        (fun t => (t.actor, t.operation)) =
      writes.map (fun w => (w.1, .runWrite w.2)) ++ [(last.actor, .resumeLock)] := by
  have hfirst : first.operation ≠ .forceUnlock := by
    rw [cut.lock]
    nofun
  rw [← cut.turns]
  congr 1
  refine List.filter_congr fun t _ => ?_
  rw [(bound_after peer f hfirst t.actor).1]

end Turns

/-- **A lock outlasts invocations.** A session takes the lock of an object in one chain, writes
under it in any number of others, and takes it up and releases it in a last one; other sessions take
any turns in between, whatever they are answered, but force no release. If no statement fails and
the calls of the session are answered, then every chain of the session takes up the one handle that
the server gave, and makes just the calls that it should under it; no other session takes a lock of
the object; and in the end the object has no row. The lock is taken at a time, and by a process,
that a row can hold: a row of another year is written, but never read. -/
theorem lock_outlasts_invocations (peer : Collaborator σ) {first last : Turn ι σ}
    {between : List (Turn ι σ)} {writes : List (ι × String)}
    (cut : CutEdit f session k first between last writes)
    (keyed : f.registry.Keyed) (available : ∀ n, f.registry.availability n = .available)
    (civil : first.now.IsCivil) (pid : first.pid ≤ Json.maxPid)
    (granted : ((Chain.lock peer).perform (f.scene first)).1 = .ok handle)
    (answered : ∀ events ∈ f.eventsOf peer (·.session == session) (first :: between ++ [last]),
      ∀ e ∈ events.filterMap LockEvent.exchange?, e.isAnswered = true) :
    (f.eventsOf peer (·.session == session) (first :: between ++ [last])).map LockEvent.summary =
        (Operation.lock :: writes.map (fun w => Operation.runWrite w.2) ++
          [Operation.resumeLock, Operation.unlock]).map (Operation.under handle) ∧
      (∀ events ∈ f.eventsOf peer (fun c => c.session != session && c.object.key == k)
          (first :: between ++ [last]), events.filterMap LockEvent.taken? = []) ∧
      find? (f.afterAll peer (first :: between ++ [last])).registry.rows k = none := by
  have unused := cut.unused first.actor (List.mem_cons_self ..)
  rw [eventsOf_around] at answered
  have ⟨hlock, hholds⟩ := lock_of_granted unused keyed available civil pid cut.lock granted
  have ⟨hbetween, hforeign, hholds', hdone⟩ := turns_under peer hholds (awaits_of_cut cut)
    cut.unforced (turns_of_cut cut) fun events hevents => answered events
      (List.mem_append_left _ (List.mem_append_right _ hevents))
  have hlocked : (((f.after peer first).afterAll peer between).chains last.actor).Locked session
      handle k := by
    cases hdone
    assumption
  have hlast : (((f.after peer first).afterAll peer between).chains last.actor).session = session :=
    hlocked.session
  have hlocking : f.eventsOf peer (·.session == session) [first] = [f.events peer first] :=
    eventsOf_singleton (beq_iff_eq.2 unused.session)
  have hunlocking : ((f.after peer first).afterAll peer between).eventsOf peer
      (·.session == session) [last] =
        [((f.after peer first).afterAll peer between).events peer last] :=
    eventsOf_singleton (beq_iff_eq.2 hlast)
  rw [hunlocking] at answered
  have ⟨hunlock, hgone⟩ := unlock_of_holds hlocked hholds' cut.unlock
    (answered _ (List.mem_append_right _ (List.mem_singleton_self _)))
  refine ⟨?_, ?_, ?_⟩
  · rw [eventsOf_around, hlocking, hunlocking]
    simp [hlock, hbetween, hunlock, cut.lock, cut.unlock, Function.comp_def]
  · intro events hevents
    rw [eventsOf_around, eventsOf_singleton_of_not (by simp [unused.session]),
      eventsOf_singleton_of_not (by simp [hlast])] at hevents
    simp only [List.nil_append, List.append_nil] at hevents
    exact hforeign events hevents
  · have hall : f.afterAll peer (first :: between ++ [last]) =
        ((f.after peer first).afterAll peer between).after peer last := by
      simp [afterAll]
    rw [hall]
    exact hgone

end Fleet

/-- Three chains of one session on one program, whose name each spells in its own way, and one of
another session. -/
def spelledApart : Fleet (Fin 4) where
  chains
    | 0 => .new (.make .program "zdemo") "S1" {}
    | 1 => .new (.make .program " ZDemo ") "S1" {}
    | 2 => .new (.make .program "ZDEMO") "S1" {}
    | 3 => .new (.make .program "zdemo") "S2" {}
  registry := {}

/-- A turn on which the collaborator releases locks too. -/
def Turn.releasing (actor : Fin 4) (operation : Operation) : Turn (Fin 4) Bool :=
  { actor, operation, remote := true, now := default, pid := 1 }

/-- Meanwhile the other session tries to edit the program, to take the lock and to take it up. -/
theorem spelledApart_outlasted :
    let peer := Collaborator.agreeing "H"
    let k := (ObjectRef.make .program "zdemo").key
    let between : List (Turn (Fin 4) Bool) :=
      [.releasing 3 (.runUpdate "x"), .releasing 1 (.runWrite "y"), .releasing 3 .lock,
        .releasing 3 .resumeLock, .releasing 2 .resumeLock]
    let turns := .releasing 0 .lock :: between ++ [.releasing 2 .unlock]
    CutEdit spelledApart "S1" k (.releasing 0 .lock) between (.releasing 2 .unlock) [(1, "y")] ∧
      (spelledApart.eventsOf peer (·.session == "S1") turns).map LockEvent.summary =
        [Operation.lock, .runWrite "y", .resumeLock, .unlock].map (Operation.under "H") ∧
      (∀ events ∈ spelledApart.eventsOf peer
          (fun c => c.session != "S1" && c.object.key == k) turns,
        events.filterMap LockEvent.taken? = []) ∧
      find? (spelledApart.afterAll peer turns).registry.rows k = none := by
  intro peer k between turns
  have unused : ∀ i ∈ [(0 : Fin 4), 1, 2], (spelledApart.chains i).Unused "S1" k := by
    rw [List.forall_mem_cons, List.forall_mem_cons, List.forall_mem_singleton]
    exact ⟨⟨rfl, rfl, rfl⟩, ⟨rfl, rfl, by decide +kernel⟩, ⟨rfl, rfl, by decide +kernel⟩⟩
  have cut : CutEdit spelledApart "S1" k (.releasing 0 .lock) between (.releasing 2 .unlock)
      [(1, "y")] :=
    ⟨rfl, rfl, by decide +kernel, by decide +kernel, by decide +kernel, unused⟩
  have civil : (Turn.releasing 0 .lock).now.IsCivil := ⟨by decide, by decide, by decide⟩
  have granted : ((Chain.lock peer).perform
      (spelledApart.scene (.releasing 0 .lock))).1 = .ok "H" := rfl
  have answered : ∀ events ∈ spelledApart.eventsOf peer (·.session == "S1") turns,
      ∀ e ∈ events.filterMap LockEvent.exchange?, e.isAnswered = true := by decide +kernel
  exact ⟨cut, Fleet.lock_outlasts_invocations peer cut List.Pairwise.nil (fun _ => rfl) civil
    (by decide) granted answered⟩

end EditLock
