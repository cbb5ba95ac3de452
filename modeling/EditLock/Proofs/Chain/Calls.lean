/-
# What the calls say about locks

The calls that were made, with what came of them, tell which locks the server granted and released.
A lock is open from the call that asked for it, for as long as no later call released the lock that
was granted there; the open locks after one more call follow from those before (`openLock_append`).

The ledger of a scene is what these calls come to, beside the handle that the chain holds and the
registry; the calls that have nothing to do with locks leave it as it is.

Key definitions: `Exchange.granted?`, `Exchange.released?`, `OpenLock`, `Scene.ledger`,
`Scene.Opening`.
Key theorems: `openLock_append`, `Chain.askKept_ledger`.
-/
import EditLock.Proofs.Chain.Operation

namespace EditLock

variable {σ : Type}

namespace Exchange

/-- The handle of the lock that was granted. -/
def granted? (e : Exchange) : Option String :=
  match e with
  | ⟨.lock, _, .ok handle⟩ => some handle
  | _ => none

/-- The handle of the lock that was released. -/
def released? (e : Exchange) : Option String :=
  match e with
  | ⟨.unlock handle, _, .ok _⟩ => some handle
  | _ => none

/-- One call released the lock that another had granted. -/
def Releases (u l : Exchange) : Prop :=
  ∃ handle, l.granted? = some handle ∧ u.released? = some handle

theorem call_of_granted? {e : Exchange} {handle : String} (h : e.granted? = some handle) :
    e.call = .lock := by
  unfold granted? at h
  split at h
  · rfl
  · cases h

theorem call_of_released? {e : Exchange} {handle : String} (h : e.released? = some handle) :
    e.call = .unlock handle := by
  unfold released? at h
  split at h
  · cases h
    rfl
  · cases h

theorem granted?_of_isPlain {e : Exchange} (h : e.call.isPlain = true) : e.granted? = none := by
  cases hg : e.granted? with
  | none => rfl
  | some handle =>
    rw [call_of_granted? hg] at h
    cases h

theorem released?_of_isPlain {e : Exchange} (h : e.call.isPlain = true) : e.released? = none := by
  cases hr : e.released? with
  | none => rfl
  | some handle =>
    rw [call_of_released? hr] at h
    cases h

/-- A call that released nothing released no lock. -/
theorem not_releases {u : Exchange} (h : u.released? = none) (l : Exchange) : ¬ u.Releases l := by
  rintro ⟨handle, -, hu⟩
  rw [h] at hu
  cases hu

end Exchange

/-! ### Open locks -/

/-- A lock was asked for at this call and was not released since. -/
def OpenLock (calls : List Exchange) (l : Exchange) : Prop :=
  l.call = .lock ∧ ∃ before after, calls = before ++ l :: after ∧ ∀ u ∈ after, ¬ u.Releases l

theorem not_openLock_nil (l : Exchange) : ¬ OpenLock [] l := by
  rintro ⟨-, before, after, h, -⟩
  simp at h

/-- A list with one more at its end is split at this one or before it. -/
theorem append_singleton_split {α : Type} {xs before after : List α} {x y : α}
    (h : xs ++ [y] = before ++ x :: after) :
    x = y ∧ xs = before ∧ after = [] ∨
      ∃ rest, after = rest ++ [y] ∧ xs = before ++ x :: rest := by
  rcases List.eq_nil_or_concat after with rfl | ⟨rest, z, rfl⟩
  · obtain ⟨hxs, hy⟩ := List.append_inj' h rfl
    cases hy
    exact .inl ⟨rfl, hxs, rfl⟩
  · rw [List.concat_eq_append, ← List.cons_append, ← List.append_assoc] at h
    obtain ⟨hxs, hy⟩ := List.append_inj' h rfl
    cases hy
    exact .inr ⟨rest, List.concat_eq_append, hxs⟩

theorem openLock_append (calls : List Exchange) (e l : Exchange) :
    OpenLock (calls ++ [e]) l ↔
      (l = e ∧ e.call = .lock) ∨ OpenLock calls l ∧ ¬ e.Releases l := by
  constructor
  · rintro ⟨hl, before, after, h, hafter⟩
    rcases append_singleton_split h with ⟨rfl, -, -⟩ | ⟨rest, rfl, hcalls⟩
    · exact .inl ⟨rfl, hl⟩
    · refine .inr ⟨⟨hl, before, rest, hcalls, fun u hu => ?_⟩, ?_⟩
      · exact hafter u (List.mem_append_left _ hu)
      · exact hafter e (by simp)
  · rintro (⟨rfl, hl⟩ | ⟨⟨hl, before, after, hcalls, hafter⟩, he⟩)
    · exact ⟨hl, calls, [], rfl, by simp⟩
    · refine ⟨hl, before, after ++ [e], by simp [hcalls], fun u hu => ?_⟩
      rcases List.mem_append.1 hu with hu | hu
      · exact hafter u hu
      · rw [List.mem_singleton.1 hu]
        exact he

/-- A call that neither asks for a lock nor releases one leaves the open locks as they are. -/
theorem openLock_append_of_released? {calls : List Exchange} {e : Exchange} (hc : e.call ≠ .lock)
    (hr : e.released? = none) (l : Exchange) : OpenLock (calls ++ [e]) l ↔ OpenLock calls l := by
  rw [openLock_append]
  simp [hc, Exchange.not_releases hr l]

/-! ### The ledger -/

/-- All that bears on the locks of a chain. -/
structure Ledger where
  object : ObjectRef
  session : String
  handle : Option String
  /-- The handles that were granted, in order. -/
  granted : List String
  /-- The handles that were released, in order. -/
  released : List String
  /-- The handles that were recorded, in order. -/
  announced : List String
  registry : Registry

/-- The ledger of a scene. -/
def Scene.ledger (s : Scene σ) : Ledger :=
  { object := s.chain.object
    session := s.chain.session
    handle := s.chain.handle
    granted := s.calls.filterMap Exchange.granted?
    released := s.calls.filterMap Exchange.released?
    announced := s.announced
    registry := s.registry }

theorem Scene.mem_granted {s : Scene σ} {handle : String} :
    handle ∈ s.ledger.granted ↔ ∃ e ∈ s.calls, e.granted? = some handle :=
  List.mem_filterMap

theorem Scene.mem_released {s : Scene σ} {handle : String} :
    handle ∈ s.ledger.released ↔ ∃ e ∈ s.calls, e.released? = some handle :=
  List.mem_filterMap

section Asked

variable {peer : Collaborator σ} {s : Scene σ}

/-- A call that grants and releases nothing leaves the ledger as it is. -/
theorem Scene.ledger_asked {call : Call}
    (hg : Exchange.granted? ⟨call, s.chain.mode, s.answer peer call⟩ = none)
    (hr : Exchange.released? ⟨call, s.chain.mode, s.answer peer call⟩ = none) :
    (s.asked peer call).ledger = s.ledger := by
  simp [Scene.ledger, hg, hr]

theorem Scene.ledger_lock_refused {e : Failure} (answer : s.answer peer .lock = .error e) :
    (s.asked peer .lock).ledger = s.ledger :=
  ledger_asked (by rw [answer]; rfl) rfl

theorem Scene.ledger_lock_granted {handle : String} (answer : s.answer peer .lock = .ok handle) :
    (s.asked peer .lock).ledger = { s.ledger with granted := s.ledger.granted ++ [handle] } := by
  simp [Scene.ledger, answer, Exchange.granted?, Exchange.released?]

theorem Scene.ledger_unlock_refused {handle : String} {e : Failure}
    (answer : s.answer peer (.unlock handle) = .error e) :
    (s.asked peer (.unlock handle)).ledger = s.ledger :=
  ledger_asked rfl (by rw [answer]; rfl)

theorem Scene.ledger_unlock_answered {handle : String} {r : Response}
    (answer : s.answer peer (.unlock handle) = .ok r) :
    (s.asked peer (.unlock handle)).ledger =
      { s.ledger with released := s.ledger.released ++ [handle] } := by
  simp [Scene.ledger, answer, Exchange.granted?, Exchange.released?]

end Asked

/-- A step with a plain call leaves the ledger as it is, whatever is answered. -/
theorem Chain.AskRun.ledger {peer : Collaborator σ} {step : Step} {call : Call} {s : Scene σ}
    {out : Except Failure call.Answer × Scene σ} (h : AskRun peer step call s out)
    (hp : call.isPlain = true) : out.2.ledger = s.ledger := by
  have hasked : (s.asked peer call).ledger = s.ledger :=
    Scene.ledger_asked (Exchange.granted?_of_isPlain hp) (Exchange.released?_of_isPlain hp)
  cases h with
  | rejected => rfl
  | failed => exact hasked
  | answered => exact hasked

namespace Chain

open Act

variable {peer : Collaborator σ}

/-- What is said of the ledger is kept by plain calls. -/
theorem askKept_ledger (P : Ledger → Prop) :
    AskKept peer (·.isPlain = true) fun s => P s.ledger := by
  intro step call s out hr _ hp hs
  show P out.2.ledger
  rw [hr.ledger hp]
  exact hs

theorem settle_keeps_ledger (P : Ledger → Prop) : Keeps (fun s => P s.ledger) (settle peer) :=
  leads_settle (fun _ => (askKept_ledger P).keeps_read rfl) (fun _ _ _ hs => hs) fun _ _ hs => hs

/-- Undoing a creation calls nothing that has to do with locks. -/
theorem UndoCreateRun.ledger {s s' : Scene σ} (h : UndoCreateRun peer s s') :
    s'.ledger = s.ledger := by
  cases h with
  | nothing => rfl
  | deleted => exact Scene.ledger_asked rfl rfl
  | kept => exact Scene.ledger_asked rfl rfl

end Chain

/-! ### Before the first call -/

/-- A chain that has done nothing yet, on any registry: no call was made, and no lock announced. -/
structure Scene.Opening (s : Scene σ) : Prop where
  fresh : s.chain.IsFresh
  calls : s.calls = []
  announced : s.announced = []

/-- A new chain on a registry. -/
def Scene.blank (object : ObjectRef) (session : String) (registry : Registry) (remote : σ) :
    Scene σ :=
  { chain := .new object session {}, registry, remote, now := default, pid := 1 }

theorem Scene.opening_blank (object : ObjectRef) (session : String) (registry : Registry)
    (remote : σ) :
    (Scene.blank object session registry remote).Opening :=
  ⟨rfl, rfl, rfl⟩

end EditLock
