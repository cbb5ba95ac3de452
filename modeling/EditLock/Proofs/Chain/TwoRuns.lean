/-
# Two runs that are answered alike

Two runs of one act, each with its own collaborator and registry, go the same way for as long as
what they ask is answered alike: the same call in the same place comes to the same
(`AnsweredAlike`), and the registry lets the same statements through. What the two have in common is
an `Accord`: the calls of either run, and how many of them, and of the statements, are answered
alike. Two acts tally if they start alike, and end alike within the accord (`Act.Tallies`); acts put
together of acts that tally do so again, so each step tallies with itself, whoever answers.

Key definitions: `Registry.Alike`, `Scene.Alike`, `AnsweredAlike`, `Accord`, `Act.Grows`,
`Act.Tallies`.
Key theorems: `Registry.setLock_tallied`, `Act.tallies_ask`, `Act.Tallies.bind`,
`Chain.check_tallies` and its like.
-/
import EditLock.Proofs.Chain.Outcomes

namespace EditLock

variable {σ τ α β : Type}

/-! ### Registries -/

namespace Registry

/-- The same rows after as many statements; of the statements below the bound each meets the same
in both. -/
structure Alike (bound : Nat) (r r' : Registry) : Prop where
  rows : r.rows = r'.rows
  statements : r.statements = r'.statements
  availability : ∀ n < bound, r.availability n = r'.availability n

/-- Alike registries give alike results, if all statements are below the bound. -/
structure Tallied (f : Registry → Except Failure α × Registry) : Prop where
  grows : ∀ r, r.statements ≤ (f r).2.statements
  alike : ∀ {bound r r'}, Alike bound r r' → (f r).2.statements ≤ bound →
    (f r).1 = (f r').1 ∧ Alike bound (f r).2 (f r').2

theorem Alike.ran {bound : Nat} {r r' : Registry} (h : Alike bound r r') (count : Nat)
    {rows rows' : List Row} (hrows : rows = rows') :
    Alike bound (r.ran count rows) (r'.ran count rows') :=
  ⟨hrows, congrArg (· + count) h.statements, h.availability⟩

theorem query_tallied (f : List Row → α) : Tallied (query f) where
  grows r := by
    by_cases hr : r.Readable
    · simp [query_of_readable f hr]
    · simp [query_of_not_readable f hr]
  alike {bound r r'} h hbound := by
    by_cases hr : r.Readable
    · rw [query_of_readable f hr] at hbound ⊢
      have hr' : r'.Readable := by
        unfold Readable at hr ⊢
        rwa [← h.statements, ← h.availability _ hbound]
      rw [query_of_readable f hr']
      exact ⟨congrArg (Except.ok ∘ f) h.rows, h.ran 1 h.rows⟩
    · rw [query_of_not_readable f hr] at hbound ⊢
      have hr' : ¬ r'.Readable := by
        unfold Readable at hr ⊢
        rwa [← h.statements, ← h.availability _ hbound]
      rw [query_of_not_readable f hr']
      exact ⟨rfl, h.ran 1 h.rows⟩

theorem execute_tallied (f : List Row → α × List Row) : Tallied (execute f) where
  grows r := by
    by_cases hr : r.Writable
    · simp [execute_of_writable f hr]
    · simp [execute_of_not_writable f hr]
  alike {bound r r'} h hbound := by
    by_cases hr : r.Writable
    · rw [execute_of_writable f hr] at hbound ⊢
      have hr' : r'.Writable := by
        unfold Writable at hr ⊢
        rwa [← h.statements, ← h.availability _ hbound]
      rw [execute_of_writable f hr', ← h.rows]
      exact ⟨rfl, h.ran 1 rfl⟩
    · rw [execute_of_not_writable f hr] at hbound ⊢
      have hr' : ¬ r'.Writable := by
        unfold Writable at hr ⊢
        rwa [← h.statements, ← h.availability _ hbound]
      rw [execute_of_not_writable f hr']
      exact ⟨rfl, h.ran 1 h.rows⟩

/-- What follows a statement that tallies, tallies. -/
theorem Tallied.andThen {f : Registry → Except Failure α × Registry}
    {g : Except Failure α → Registry → Except Failure β × Registry}
    {h : Registry → Except Failure β × Registry} (hf : Tallied f) (hg : ∀ x, Tallied (g x))
    (split : ∀ r, h r = g (f r).1 (f r).2) : Tallied h where
  grows r := by
    rw [split]
    exact (hf.grows r).trans ((hg _).grows _)
  alike {bound r r'} hr hbound := by
    rw [split r] at hbound ⊢
    have hmid : (f r).2.statements ≤ bound := ((hg _).grows _).trans hbound
    obtain ⟨hresult, hnext⟩ := hf.alike hr hmid
    rw [split r', ← hresult]
    exact (hg _).alike hnext hbound

theorem tallied_pure (x : Except Failure α) : Tallied fun r => (x, r) where
  grows _ := le_rfl
  alike h _ := ⟨rfl, h⟩

/-- The record of a row that was looked up. -/
def lookedUp : Except Failure (Option Row) → Except Failure (Option LockRecord)
  | .error e => .error e
  | .ok none => .ok none
  | .ok (some row) => row.decode.map some

theorem get_eq (k : Key) (r : Registry) :
    get k r = (lookedUp (r.query fun rows => find? rows k).1,
      (r.query fun rows => find? rows k).2) := by
  unfold get
  generalize r.query (fun rows => find? rows k) = found
  obtain ⟨e | _ | row, r⟩ := found <;> rfl

theorem get_tallied (k : Key) : Tallied (get k) :=
  (query_tallied fun rows => find? rows k).andThen (fun x => tallied_pure (lookedUp x)) (get_eq k)

/-- What is reported of a row that may not be written over, once it was looked up. -/
def refusal (record : LockRecord) : Except Failure (Option LockRecord) → Failure
  | .error e => e
  | .ok found =>
    let owner := (found.map LockRecord.session).getD "unknown"
    .conflict (record.key.toText ++ s!" is locked by session {owner}, not {record.session}")

/-- What follows the statement that writes a record. -/
def afterUpsert (record : LockRecord) :
    Except Failure Bool → Registry → Except Failure Unit × Registry
  | .error e, r => (.error e, r)
  | .ok true, r => (.ok (), r)
  | .ok false, r => (.error (refusal record (r.get record.key).1), (r.get record.key).2)

theorem setLock_eq (record : LockRecord) (r : Registry) :
    setLock record r = afterUpsert record (r.execute (upsert (.ofRecord record))).1
      (r.execute (upsert (.ofRecord record))).2 := by
  unfold setLock
  generalize r.execute (upsert (.ofRecord record)) = written
  obtain ⟨e | _ | _, r⟩ := written
  · rfl
  · simp only [afterUpsert]
    generalize r.get record.key = found
    obtain ⟨e | found, r⟩ := found <;> rfl
  · rfl

theorem setLock_tallied (record : LockRecord) : Tallied (setLock record) := by
  refine (execute_tallied (upsert (.ofRecord record))).andThen (fun x => ?_) (setLock_eq record)
  rcases x with e | _ | _
  · exact tallied_pure (.error e)
  · exact (get_tallied record.key).andThen (fun x => tallied_pure (.error (refusal record x)))
      fun _ => rfl
  · exact tallied_pure (.ok ())

theorem removeIfUnchanged_tallied (record : LockRecord) : Tallied (removeIfUnchanged record) := by
  unfold removeIfUnchanged
  exact execute_tallied _

end Registry

/-! ### Scenes and accords -/

/-- Two scenes that differ at most in the collaborator, and in what the registry lets the statements
from the bound on do. -/
structure Scene.Alike (bound : Nat) (s : Scene σ) (s' : Scene τ) : Prop where
  chain : s.chain = s'.chain
  registry : s.registry.Alike bound s'.registry
  now : s.now = s'.now
  pid : s.pid = s'.pid
  calls : s.calls = s'.calls
  announced : s.announced = s'.announced

theorem Scene.Alike.withChain {bound : Nat} {s : Scene σ} {s' : Scene τ} (h : s.Alike bound s')
    (f : Chain → Chain) : (s.withChain f).Alike bound (s'.withChain f) :=
  { h with chain := congrArg f h.chain }

theorem Scene.Alike.withRegistry {bound : Nat} {s : Scene σ} {s' : Scene τ} (h : s.Alike bound s')
    {r r' : Registry} (hr : r.Alike bound r') : (s.withRegistry r).Alike bound (s'.withRegistry r') :=
  { h with registry := hr }

/-- In each of the first places, where the same call is made in the same mode in both runs, the same
comes of it. -/
def AnsweredAlike (places : Nat) (calls calls' : List Exchange) : Prop :=
  ∀ n < places, ∀ e ∈ calls[n]?, ∀ e' ∈ calls'[n]?, e.call = e'.call → e.mode = e'.mode → e = e'

/-- What two runs have in common: all calls of either, how many of them are answered alike, and how
many statements of the registry meet the same. -/
structure Accord where
  calls : List Exchange
  calls' : List Exchange
  places : Nat
  statements : Nat
  alike : AnsweredAlike places calls calls'

/-- An act went on from one scene to the other: calls and statements were only added. -/
structure Scene.Precedes (s t : Scene σ) : Prop where
  calls : s.calls <+: t.calls
  statements : s.registry.statements ≤ t.registry.statements

theorem Scene.Precedes.trans {s t u : Scene σ} (h : s.Precedes t) (h' : t.Precedes u) :
    s.Precedes u :=
  ⟨h.calls.trans h'.calls, h.statements.trans h'.statements⟩

theorem Scene.precedes_of_same {s t : Scene σ} (hc : t.calls = s.calls)
    (hr : t.registry = s.registry) : s.Precedes t :=
  ⟨hc ▸ List.prefix_rfl, (congrArg Registry.statements hr).ge⟩

/-- Two runs have come no further than their accord goes. -/
structure Accord.Covers (w : Accord) (t : Scene σ) (t' : Scene τ) : Prop where
  calls : t.calls <+: w.calls
  calls' : t'.calls <+: w.calls'
  places : t.calls.length ≤ w.places
  statements : t.registry.statements ≤ w.statements

/-- What covers the ends of two acts covers what comes before. -/
theorem Accord.Covers.before {w : Accord} {s t : Scene σ} {s' t' : Scene τ} (h : w.Covers t t')
    (hs : s.Precedes t) (hs' : s'.Precedes t') : w.Covers s s' :=
  ⟨hs.calls.trans h.calls, hs'.calls.trans h.calls', hs.calls.length_le.trans h.places,
    hs.statements.trans h.statements⟩

/-! ### Acts that tally -/

namespace Act

/-- The act only adds to the calls and the statements. -/
def Grows (act : Act σ α) : Prop :=
  ∀ s : Scene σ, s.Precedes (act.perform s).2

theorem Grows.bind {act : Act σ α} {f : α → Act σ β} (h : act.Grows) (hf : ∀ a, (f a).Grows) :
    (act >>= f).Grows := by
  intro s
  rw [perform_bind]
  have hact := h s
  generalize act.perform s = out at hact ⊢
  obtain ⟨e | a, t⟩ := out
  · exact hact
  · exact hact.trans (hf a t)

/-- From alike scenes two acts come to the same result on alike scenes, within an accord. -/
structure Tallies (w : Accord) (act : Act σ α) (act' : Act τ α) : Prop where
  grows : act.Grows
  grows' : act'.Grows
  alike : ∀ {s s'}, s.Alike w.statements s' → w.Covers (act.perform s).2 (act'.perform s').2 →
    (act.perform s).1 = (act'.perform s').1 ∧
      (act.perform s).2.Alike w.statements (act'.perform s').2

variable {w : Accord}

section Parts

variable {f : α → Act σ β} {f' : α → Act τ β} {act : Act σ α} {act' : Act τ α}

theorem tallies_pure (a : α) : Tallies w (pure a : Act σ α) (pure a : Act τ α) where
  grows _ := Scene.precedes_of_same rfl rfl
  grows' _ := Scene.precedes_of_same rfl rfl
  alike h _ := ⟨rfl, h⟩

theorem tallies_throw (e : Failure) : Tallies w (throw e : Act σ α) (throw e : Act τ α) where
  grows _ := Scene.precedes_of_same rfl rfl
  grows' _ := Scene.precedes_of_same rfl rfl
  alike h _ := ⟨rfl, h⟩

theorem Tallies.bind (h : Tallies w act act') (hf : ∀ a, Tallies w (f a) (f' a)) :
    Tallies w (act >>= f) (act' >>= f') where
  grows := h.grows.bind fun a => (hf a).grows
  grows' := h.grows'.bind fun a => (hf a).grows'
  alike {s s'} hs hc := by
    have hgrows : (act.perform s).2.Precedes ((act >>= f).perform s).2 := by
      rw [perform_bind]
      generalize act.perform s = out
      obtain ⟨e | a, t⟩ := out
      · exact Scene.precedes_of_same rfl rfl
      · exact (hf a).grows t
    have hgrows' : (act'.perform s').2.Precedes ((act' >>= f').perform s').2 := by
      rw [perform_bind]
      generalize act'.perform s' = out
      obtain ⟨e | a, t⟩ := out
      · exact Scene.precedes_of_same rfl rfl
      · exact (hf a).grows' t
    obtain ⟨hresult, halike⟩ := h.alike hs (hc.before hgrows hgrows')
    rw [perform_bind, perform_bind] at hc ⊢
    generalize act.perform s = out at hresult halike hc ⊢
    generalize act'.perform s' = out' at hresult halike hc ⊢
    obtain ⟨r, t⟩ := out
    obtain ⟨r', t'⟩ := out'
    cases hresult
    cases r with
    | error e => exact ⟨rfl, halike⟩
    | ok a => exact (hf a).alike halike hc

theorem Tallies.outcome (h : Tallies w act act') : Tallies w act.outcome act'.outcome where
  grows := h.grows
  grows' := h.grows'
  alike hs hc := by
    obtain ⟨hresult, halike⟩ := h.alike hs hc
    exact ⟨congrArg Except.ok hresult, halike⟩

theorem Tallies.discard (h : Tallies w act act') :
    Tallies w (Functor.discard act : Act σ Unit) (Functor.discard act' : Act τ Unit) := by
  show Tallies w ((fun _ => PUnit.unit) <$> act) ((fun _ => PUnit.unit) <$> act')
  rw [← bind_pure_comp, ← bind_pure_comp]
  exact h.bind fun _ => tallies_pure _

theorem tallies_chain_bind {f : Chain → Act σ β} {f' : Chain → Act τ β}
    (hf : ∀ c, Tallies w (f c) (f' c)) : Tallies w (Act.chain >>= f) (Act.chain >>= f') := by
  refine Tallies.bind ⟨?_, ?_, ?_⟩ hf
  · exact fun _ => Scene.precedes_of_same rfl rfl
  · exact fun _ => Scene.precedes_of_same rfl rfl
  · exact fun h _ => ⟨congrArg Except.ok h.chain, h⟩

theorem tallies_change (f : Chain → Chain) :
    Tallies w (change f : Act σ Unit) (change f : Act τ Unit) where
  grows _ := Scene.precedes_of_same rfl rfl
  grows' _ := Scene.precedes_of_same rfl rfl
  alike h _ := ⟨rfl, h.withChain f⟩

theorem tallies_ownRecord (handle : String) :
    Tallies w (ownRecord handle : Act σ LockRecord) (ownRecord handle : Act τ LockRecord) where
  grows _ := Scene.precedes_of_same rfl rfl
  grows' _ := Scene.precedes_of_same rfl rfl
  alike {s s'} h _ := by
    simp only [perform_ownRecord]
    exact ⟨by simp only [Scene.record, h.chain, h.now, h.pid], h⟩

theorem tallies_announce (handle : String) :
    Tallies w (announce handle : Act σ Unit) (announce handle : Act τ Unit) where
  grows _ := Scene.precedes_of_same rfl rfl
  grows' _ := Scene.precedes_of_same rfl rfl
  alike h _ := ⟨rfl, { h with announced := congrArg (· ++ [handle]) h.announced }⟩

theorem tallies_consult {f : Registry → Except Failure α × Registry} (hf : Registry.Tallied f) :
    Tallies w (consult f : Act σ α) (consult f : Act τ α) where
  grows s := by
    rw [perform_consult]
    exact ⟨List.prefix_rfl, hf.grows _⟩
  grows' s := by
    rw [perform_consult]
    exact ⟨List.prefix_rfl, hf.grows _⟩
  alike {s s'} h hc := by
    rw [perform_consult, perform_consult] at hc ⊢
    obtain ⟨hresult, hregistry⟩ := hf.alike h.registry hc.statements
    exact ⟨hresult, h.withRegistry hregistry⟩

end Parts

theorem mem_getElem?_of_prefix {xs ys : List α} {x : α} (h : xs ++ [x] <+: ys) :
    x ∈ ys[xs.length]? := by
  obtain ⟨rest, rfl⟩ := h
  simp

/-- **A call within the accord is answered alike.** -/
theorem tallies_ask (peer : Collaborator σ) (peer' : Collaborator τ) (c : Call) :
    Tallies w (ask peer c) (ask peer' c) where
  grows s := by
    rw [perform_ask]
    exact ⟨List.prefix_append .., le_rfl⟩
  grows' s := by
    rw [perform_ask]
    exact ⟨List.prefix_append .., le_rfl⟩
  alike {s s'} h hc := by
    rw [perform_ask, perform_ask] at hc ⊢
    have he := mem_getElem?_of_prefix hc.calls
    have he' := mem_getElem?_of_prefix hc.calls'
    have hplace : s.calls.length < w.places := by
      have := hc.places
      simp only [Scene.asked_calls, List.length_append, List.length_singleton] at this
      omega
    rw [← h.calls] at he'
    have hsame := w.alike _ hplace _ he _ he' rfl (congrArg Chain.mode h.chain)
    have hresult : s.answer peer c = s'.answer peer' c := eq_of_heq (Exchange.mk.inj hsame).2.2
    refine ⟨hresult, { h with calls := ?_ }⟩
    simp only [Scene.asked_calls, h.calls, hsame]

end Act

/-! ### Steps that tally -/

namespace Chain

open Act

variable {w : Accord} (peer : Collaborator σ) (peer' : Collaborator τ)

theorem tallies_allowed_bind (step : Step) {f : Stage → Act σ α} {f' : Stage → Act τ α}
    (hf : ∀ next, Tallies w (f next) (f' next)) :
    Tallies w (allowed step >>= f) (allowed step >>= f') := by
  refine Tallies.bind (tallies_chain_bind fun c => ?_) hf
  cases c.stage.next? step with
  | none => exact tallies_throw _
  | some next => exact tallies_pure next

theorem tallies_heldHandle_bind (step : Step) {f : String → Act σ α} {f' : String → Act τ α}
    (hf : ∀ handle, Tallies w (f handle) (f' handle)) :
    Tallies w (heldHandle step >>= f) (heldHandle step >>= f') := by
  refine Tallies.bind (tallies_chain_bind fun c => ?_) hf
  cases c.handle with
  | none => exact tallies_throw _
  | some handle => exact tallies_pure handle

/-- A call, and a note of what was answered. -/
theorem tallies_ask_note (c : Call) (note : c.Answer → Chain → Chain) :
    Tallies w (do let answer ← ask peer c; change (note answer); return answer : Act σ c.Answer)
      (do let answer ← ask peer' c; change (note answer); return answer) :=
  (tallies_ask peer peer' c).bind fun answer =>
    (tallies_change (note answer)).bind fun _ => tallies_pure answer

theorem validate_tallies : Tallies w (validate peer) (validate peer') :=
  tallies_allowed_bind .validate fun next => tallies_ask_note peer peer' .validate fun outcome c =>
    { c.withResult .validate outcome.response with stage := next }

theorem create_tallies (payload : Option String) :
    Tallies w (create peer payload) (create peer' payload) :=
  tallies_allowed_bind .create fun next =>
    tallies_ask_note peer peer' (.create payload) fun response c =>
      { c.withResult .create response with stage := next, created := true }

theorem check_tallies (payload : Option String) :
    Tallies w (check peer payload) (check peer' payload) :=
  tallies_allowed_bind .check fun next => tallies_chain_bind fun c =>
    tallies_ask_note peer peer' (.check (if c.stage = .init then .active else .inactive) payload)
      fun response c => { c.withResult .check response with stage := next }

theorem resumeLock_tallies :
    Tallies w (resumeLock : Act σ String) (resumeLock : Act τ String) := by
  refine tallies_allowed_bind .lock fun next => tallies_chain_bind fun c =>
    (tallies_consult (Registry.get_tallied c.object.key)).bind fun found => ?_
  cases found with
  | none => exact tallies_throw _
  | some record =>
    by_cases own : record.session = c.session
    · simp only [own, ne_eq, not_true_eq_false, if_false]
      exact (tallies_change _).bind fun _ => tallies_pure _
    · simp only [own, ne_eq, not_false_eq_true, if_true]
      exact tallies_throw _

theorem update_tallies (payload : String) : Tallies w (update peer payload) (update peer' payload) :=
  tallies_allowed_bind .update fun next => tallies_heldHandle_bind .update fun handle =>
    tallies_ask_note peer peer' (.update handle payload) fun response c =>
      { c.withResult .update response with stage := next }

theorem forgetLock_tallies (handle : String) :
    Tallies w (forgetLock handle : Act σ Unit) (forgetLock handle : Act τ Unit) :=
  (tallies_ownRecord handle).bind fun record =>
    (tallies_consult (Registry.removeIfUnchanged_tallied record)).bind fun _ => tallies_pure ()

theorem unlock_tallies : Tallies w (unlock peer) (unlock peer') :=
  tallies_allowed_bind .unlock fun _ => tallies_heldHandle_bind .unlock fun handle =>
    (tallies_ask peer peer' (.unlock handle)).bind fun response =>
      (tallies_change _).bind fun _ => (forgetLock_tallies handle).bind fun _ =>
        tallies_pure response

theorem activate_tallies : Tallies w (activate peer) (activate peer') :=
  tallies_allowed_bind .activate fun next => tallies_ask_note peer peer' .activate fun response c =>
    { c.withResult .activate response with stage := next }

theorem delete_tallies : Tallies w (delete peer) (delete peer') :=
  tallies_allowed_bind .delete fun next => tallies_chain_bind fun c =>
    tallies_ask_note peer peer' (.delete c.handle) fun response c =>
      { c.withResult .delete response with stage := next }

theorem read_tallies (budget : Option Nat) : Tallies w (read peer budget) (read peer' budget) :=
  tallies_ask_note peer peer' (.read budget) fun response c => c.withResult .read response

theorem settle_tallies : Tallies w (settle peer) (settle peer') := by
  refine tallies_chain_bind fun c =>
    (read_tallies peer peer' (some c.options.consistencyMillis)).outcome.bind fun result => ?_
  cases result with
  | ok _ => exact tallies_pure ()
  | error e =>
    cases hn : e.isNetwork with
    | true =>
      simp only [hn, if_true]
      exact tallies_change _
    | false =>
      simp only [hn]
      exact tallies_throw e

end Chain

end EditLock
