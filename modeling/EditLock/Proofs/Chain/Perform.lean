/-
# Performing acts

How an act is performed on a scene, part by part: the `perform_` equations take an act apart into
what it does to the scene, and no later proof looks inside the monad. A call leaves the scene
`Scene.asked`, with the answer `Scene.answer`.

What holds after an act is said by `Act.Leads P act Q E`: on a scene with `P` the act ends with `Q`,
or fails with `E`. The rules for `Leads` follow the way in which acts are put together; an act that
keeps a property of the scene, whether it fails or not, is one with `Act.Keeps`.

Key definitions: `Scene.answer`, `Scene.asked`, `Scene.withChain`, `Act.Leads`, `Act.Keeps`.
Key theorems: `Act.perform_bind`, `Act.perform_ask`, `Act.Leads.bind`, `Chain.leads_attempt`.
-/
import EditLock.Chain.Run
import EditLock.Proofs.Registry.Rows

namespace EditLock

variable {σ α β : Type}

namespace Scene

/-- What comes of a call that is made on a scene. -/
def answer (s : Scene σ) (peer : Collaborator σ) (c : Call) : Except Failure c.Answer :=
  Act.resultOf c s.chain.options.stepLimit
    (peer.reply c s.chain.object s.chain.mode s.chain.options.stepLimit s.remote).1

/-- The scene after a call. -/
def asked (s : Scene σ) (peer : Collaborator σ) (c : Call) : Scene σ :=
  { s with
    remote := (peer.reply c s.chain.object s.chain.mode s.chain.options.stepLimit s.remote).2
    calls := s.calls ++ [⟨c, s.chain.mode, s.answer peer c⟩] }

/-- The scene with its chain changed. -/
def withChain (s : Scene σ) (f : Chain → Chain) : Scene σ :=
  { s with chain := f s.chain }

/-- The scene with its registry replaced. -/
def withRegistry (s : Scene σ) (registry : Registry) : Scene σ :=
  { s with registry }

/-- The scene with the following requests routed in a mode. -/
def routed (s : Scene σ) (mode : SessionMode) : Scene σ :=
  s.withChain fun c => { c with mode }

/-- The record of a lock of this scene's chain. -/
def record (s : Scene σ) (handle : String) : LockRecord :=
  .make s.chain.object.key s.chain.session handle s.now s.pid

section Fields

variable (s : Scene σ) (peer : Collaborator σ) (c : Call)

@[simp] theorem asked_chain : (s.asked peer c).chain = s.chain := rfl
@[simp] theorem asked_registry : (s.asked peer c).registry = s.registry := rfl
@[simp] theorem asked_calls :
    (s.asked peer c).calls = s.calls ++ [⟨c, s.chain.mode, s.answer peer c⟩] := rfl
@[simp] theorem asked_announced : (s.asked peer c).announced = s.announced := rfl

variable (f : Chain → Chain)

@[simp] theorem withChain_chain : (s.withChain f).chain = f s.chain := rfl
@[simp] theorem withChain_registry : (s.withChain f).registry = s.registry := rfl
@[simp] theorem withChain_calls : (s.withChain f).calls = s.calls := rfl
@[simp] theorem withChain_announced : (s.withChain f).announced = s.announced := rfl

variable (registry : Registry)

@[simp] theorem withRegistry_chain : (s.withRegistry registry).chain = s.chain := rfl
@[simp] theorem withRegistry_registry : (s.withRegistry registry).registry = registry := rfl
@[simp] theorem withRegistry_calls : (s.withRegistry registry).calls = s.calls := rfl
@[simp] theorem withRegistry_announced : (s.withRegistry registry).announced = s.announced := rfl

variable (mode : SessionMode)

@[simp] theorem routed_chain : (s.routed mode).chain = { s.chain with mode } := rfl
@[simp] theorem routed_registry : (s.routed mode).registry = s.registry := rfl
@[simp] theorem routed_calls : (s.routed mode).calls = s.calls := rfl
@[simp] theorem routed_announced : (s.routed mode).announced = s.announced := rfl

end Fields

/-- A record of this scene's chain stands under the key of the chain's object. -/
theorem record_key (s : Scene σ) (handle : String) : (s.record handle).key = s.chain.object.key :=
  LockRecord.key_make ..

@[simp] theorem record_session (s : Scene σ) (handle : String) :
    (s.record handle).session = s.chain.session := rfl

@[simp] theorem record_handle (s : Scene σ) (handle : String) :
    (s.record handle).handle = handle := rfl

end Scene

namespace Act

/-! ### The parts of an act -/

@[simp] theorem perform_pure (a : α) (s : Scene σ) : (pure a : Act σ α).perform s = (.ok a, s) := rfl

@[simp] theorem perform_throw (e : Failure) (s : Scene σ) :
    (throw e : Act σ α).perform s = (.error e, s) := rfl

theorem perform_bind (act : Act σ α) (f : α → Act σ β) (s : Scene σ) :
    (act >>= f).perform s =
      match act.perform s with
      | (.ok a, s') => (f a).perform s'
      | (.error e, s') => (.error e, s') := by
  unfold perform
  rw [ExceptT.run_bind, StateT.run_bind]
  generalize act.run.run s = performed
  obtain ⟨r, s'⟩ := performed
  cases r <;> rfl

theorem perform_map (f : α → β) (act : Act σ α) (s : Scene σ) :
    (f <$> act).perform s =
      match act.perform s with
      | (.ok a, s') => (.ok (f a), s')
      | (.error e, s') => (.error e, s') := by
  rw [← bind_pure_comp, perform_bind]
  rfl

theorem perform_discard_eq (act : Act σ α) (s : Scene σ) :
    (discard act : Act σ Unit).perform s =
      match act.perform s with
      | (.ok _, s') => (.ok (), s')
      | (.error e, s') => (.error e, s') :=
  perform_map (fun _ => ()) act s

/-- A result that is thrown away leaves the same scene. -/
theorem perform_discard (act : Act σ α) (s : Scene σ) :
    ((discard act : Act σ Unit).perform s).2 = (act.perform s).2 := by
  rw [perform_discard_eq]
  generalize act.perform s = performed
  obtain ⟨r, s'⟩ := performed
  cases r <;> rfl

@[simp] theorem perform_get (s : Scene σ) : (get : Act σ (Scene σ)).perform s = (.ok s, s) := rfl

@[simp] theorem perform_set (s s' : Scene σ) :
    (set s' : Act σ Unit).perform s = (.ok (), s') := rfl

@[simp] theorem perform_ofExcept (r : Except Failure α) (s : Scene σ) :
    (ofExcept r : Act σ α).perform s = (r, s) := by
  cases r <;> rfl

@[simp] theorem perform_outcome (act : Act σ α) (s : Scene σ) :
    act.outcome.perform s = (.ok (act.perform s).1, (act.perform s).2) := rfl

@[simp] theorem perform_chain (s : Scene σ) :
    (Act.chain : Act σ Chain).perform s = (.ok s.chain, s) := rfl

@[simp] theorem perform_change (f : Chain → Chain) (s : Scene σ) :
    (change f : Act σ Unit).perform s = (.ok (), s.withChain f) := rfl

@[simp] theorem perform_setMode (mode : SessionMode) (s : Scene σ) :
    (setMode mode : Act σ Unit).perform s = (.ok (), s.routed mode) := rfl

@[simp] theorem perform_ownRecord (handle : String) (s : Scene σ) :
    (ownRecord handle : Act σ LockRecord).perform s = (.ok (s.record handle), s) := rfl

@[simp] theorem perform_announce (handle : String) (s : Scene σ) :
    (announce handle : Act σ Unit).perform s =
      (.ok (), { s with announced := s.announced ++ [handle] }) := rfl

@[simp] theorem perform_consult (f : Registry → Except Failure α × Registry) (s : Scene σ) :
    (consult f : Act σ α).perform s = ((f s.registry).1, s.withRegistry (f s.registry).2) := by
  unfold consult
  simp only [perform_bind, perform_get, perform_set, perform_ofExcept]
  rfl

theorem perform_ask (peer : Collaborator σ) (c : Call) (s : Scene σ) :
    (ask peer c).perform s = (s.answer peer c, s.asked peer c) := by
  unfold ask
  simp only [perform_bind, perform_get, perform_set, perform_ofExcept]
  rfl

/-! ### What an act leads to -/

/-- On a scene with `P` the act ends with `Q`, or fails with `E`. -/
def Leads (P : Scene σ → Prop) (act : Act σ α) (Q : α → Scene σ → Prop)
    (E : Failure → Scene σ → Prop) : Prop :=
  ∀ s, P s → match act.perform s with
    | (.ok a, s') => Q a s'
    | (.error e, s') => E e s'

/-- The act keeps a property of the scene, whether it fails or not. -/
def Keeps (P : Scene σ → Prop) (act : Act σ α) : Prop :=
  Leads P act (fun _ => P) (fun _ => P)

section Rules

variable {P P' : Scene σ → Prop} {act : Act σ α} {Q Q' : α → Scene σ → Prop}
  {E E' : Failure → Scene σ → Prop}

theorem Leads.ok (h : Leads P act Q E) {s s' : Scene σ} {a : α} (hs : P s)
    (hp : act.perform s = (.ok a, s')) : Q a s' := by
  have := h s hs
  rwa [hp] at this

/-- What an act leads to either way holds of the scene that it leaves. -/
theorem Leads.perform {Q : Scene σ → Prop} (h : Leads P act (fun _ => Q) (fun _ => Q))
    {s : Scene σ} (hs : P s) : Q (act.perform s).2 := by
  have := h s hs
  generalize act.perform s = performed at this ⊢
  obtain ⟨r, s'⟩ := performed
  cases r <;> exact this

/-- One of what an act leads to holds of the scene that it leaves. -/
theorem Leads.either {Q E : Scene σ → Prop} (h : Leads P act (fun _ => Q) (fun _ => E))
    {s : Scene σ} (hs : P s) : Q (act.perform s).2 ∨ E (act.perform s).2 := by
  have := h s hs
  generalize act.perform s = performed at this ⊢
  obtain ⟨r, s'⟩ := performed
  cases r with
  | ok a => exact .inl this
  | error e => exact .inr this

theorem leads_of_perform {Q : Scene σ → Prop} (h : ∀ s, P s → Q (act.perform s).2) :
    Leads P act (fun _ => Q) (fun _ => Q) := by
  intro s hs
  have := h s hs
  generalize act.perform s = performed at this ⊢
  obtain ⟨r, s'⟩ := performed
  cases r <;> exact this

theorem keeps_of_perform (h : ∀ s, P s → P (act.perform s).2) : Keeps P act :=
  leads_of_perform h

theorem Leads.mono (h : Leads P act Q E) (hP : ∀ s, P' s → P s) (hQ : ∀ a s, Q a s → Q' a s)
    (hE : ∀ e s, E e s → E' e s) : Leads P' act Q' E' := by
  intro s hs
  have := h s (hP s hs)
  generalize act.perform s = performed at this ⊢
  obtain ⟨r, s'⟩ := performed
  cases r with
  | ok a => exact hQ a s' this
  | error e => exact hE e s' this

theorem leads_pure {a : α} (h : ∀ s, P s → Q a s) : Leads P (pure a) Q E :=
  fun s hs => h s hs

theorem Leads.bind {f : α → Act σ β} {R : β → Scene σ → Prop} (h : Leads P act Q E)
    (hf : ∀ a, Leads (Q a) (f a) R E) : Leads P (act >>= f) R E := by
  intro s hs
  rw [perform_bind]
  have := h s hs
  generalize act.perform s = performed at this ⊢
  obtain ⟨r, s'⟩ := performed
  cases r with
  | ok a => exact hf a s' this
  | error e => exact this

theorem leads_change {f : Chain → Chain} {Q : Unit → Scene σ → Prop}
    (h : ∀ s, P s → Q () (s.withChain f)) : Leads P (change f) Q E :=
  fun s hs => h s hs

/-- The chain is looked up, and what follows is known of the chain that was found. -/
theorem leads_chain_bind {f : Chain → Act σ β} {R : β → Scene σ → Prop}
    (h : ∀ c, Leads (fun s => P s ∧ s.chain = c) (f c) R E) :
    Leads P (Act.chain >>= f) R E := by
  intro s hs
  rw [perform_bind, perform_chain]
  exact h s.chain s ⟨hs, rfl⟩

theorem Leads.discard {Q : Scene σ → Prop} (h : Leads P act (fun _ => Q) E) :
    Leads P (discard act : Act σ Unit) (fun _ => Q) E := by
  show Leads P ((fun _ => PUnit.unit) <$> act) _ E
  rw [← bind_pure_comp]
  exact h.bind fun _ => leads_pure fun _ hs => hs

theorem leads_ite {c : Prop} [Decidable c] {act' : Act σ α} (h : c → Leads P act Q E)
    (h' : ¬ c → Leads P act' Q E) : Leads P (if c then act else act') Q E := by
  split
  · exact h ‹_›
  · exact h' ‹_›

end Rules

end Act

namespace Chain

open Act

variable (peer : Collaborator σ)

theorem perform_attempt (step : Step) (act : Act σ α) (s : Scene σ) :
    (attempt peer step act).perform s =
      match act.perform s with
      | (.ok a, s') => (.ok a, s')
      | (.error e, s') => (abort peer step e).perform s' := by
  unfold attempt
  rw [perform_bind, perform_outcome]
  generalize act.perform s = performed
  obtain ⟨r, s'⟩ := performed
  cases r <;> rfl

/-- A part of a chain leads on where it ends, and to the end of the chain where it fails. -/
theorem leads_attempt {P : Scene σ → Prop} {act : Act σ α} {Q : α → Scene σ → Prop}
    {E F : Failure → Scene σ → Prop} {step : Step} (h : Leads P act Q F)
    (ha : ∀ e, Leads (F e) (abort peer step e : Act σ α) Q E) :
    Leads P (attempt peer step act) Q E := by
  intro s hs
  rw [perform_attempt]
  have := h s hs
  generalize act.perform s = performed at this ⊢
  obtain ⟨r, s'⟩ := performed
  cases r with
  | ok a => exact this
  | error e => exact ha e s' this

end Chain

end EditLock
