/-
# Which locks are outstanding

A handle is outstanding for a chain from the moment it is granted or taken up until a release of it
is answered, or a forced release was tried. Along the operations of one chain, whatever others do to
the registry between them, the handle in memory is the outstanding one (`Standing.InStep`), with
one exception: a lock that is left over from a failed release is overtaken if another lock is taken
up or granted, or if its own handle is granted again and released behind its back
(`Visit.Supersedes`).

Within one operation a fate is followed from call to call (`Fate`): no lock was granted, or one was
and the chain took it, or one was and was given back by the next call. A fate is in step just where
nothing was overtaken.

Key definitions: `Exchange.settle`, `Standing`, `Visit`, `Standing.InStep`, `Overtakes`,
`Visit.Supersedes`, `Carries`, `Fate`, `Quiet`, `JustGranted`.
Key theorems: `Fate.plain`, `Fate.release`, `Fate.inStep_iff`.
-/
import Mathlib.Data.Finset.Option
import EditLock.Proofs.Chain.Calls

namespace EditLock

variable {σ : Type}

/-! ### The count of outstanding handles -/

/-- The handle that a call puts an end to: one that was released, or when release is forced, one
whose release was tried. -/
def Exchange.ended? (forced : Bool) (e : Exchange) : Option String :=
  if forced then
    match e.call with
    | .unlock handle => some handle
    | _ => none
  else e.released?

/-- The outstanding handles after a call. -/
def Exchange.settle (forced : Bool) (outstanding : Finset String) (e : Exchange) : Finset String :=
  match e.granted?, e.ended? forced with
  | some handle, _ => insert handle outstanding
  | none, some handle => outstanding.erase handle
  | none, none => outstanding

/-- A chain, and the handles that are outstanding for it. -/
structure Standing where
  chain : Chain
  outstanding : Finset String

/-- One operation of a chain; the registry is as others have left it. -/
structure Visit (σ : Type) where
  operation : Operation
  registry : Registry
  remote : σ
  now : Instant
  pid : Nat

namespace Visit

/-- The scene on which a chain is visited. -/
def scene (v : Visit σ) (c : Chain) : Scene σ :=
  { chain := c, registry := v.registry, remote := v.remote, now := v.now, pid := v.pid }

/-- The scene that a visit leaves. -/
def sceneAfter (peer : Collaborator σ) (v : Visit σ) (c : Chain) : Scene σ :=
  ((v.operation.act peer).perform (v.scene c)).2

/-- The handle of the recorded lock that a visit takes up. -/
def adopted? (v : Visit σ) (c : Chain) : Option String :=
  match v.operation with
  | .resumeLock | .runWrite _ =>
    ((Chain.resumeLock : Act σ String).perform (v.scene c)).1.toOption
  | _ => none

/-- Whether a visit forces a release. -/
def forced (v : Visit σ) : Bool :=
  v.operation == .forceUnlock

end Visit

/-- The chain after all of some visits. -/
def Chain.afterAll (peer : Collaborator σ) (c : Chain) (visits : List (Visit σ)) : Chain :=
  visits.foldl (fun c v => (v.sceneAfter peer c).chain) c

namespace Standing

/-- A chain before its first operation. -/
def start (c : Chain) : Standing :=
  { chain := c, outstanding := ∅ }

/-- How a chain stands after a visit. -/
def after (peer : Collaborator σ) (st : Standing) (v : Visit σ) : Standing :=
  { chain := (v.sceneAfter peer st.chain).chain
    outstanding := (v.sceneAfter peer st.chain).calls.foldl (Exchange.settle v.forced)
      (st.outstanding ∪ (v.adopted? st.chain).toFinset) }

/-- How a chain stands after all of some visits. -/
def afterAll (peer : Collaborator σ) (st : Standing) (visits : List (Visit σ)) : Standing :=
  visits.foldl (after peer) st

/-- The handle in memory is the outstanding one, and there is no other. -/
def InStep (st : Standing) : Prop :=
  ∀ handle, st.chain.handle = some handle ↔ handle ∈ st.outstanding

theorem inStep_iff {st : Standing} : st.InStep ↔ st.outstanding = st.chain.handle.toFinset := by
  constructor
  · intro h
    ext handle
    rw [Option.mem_toFinset, Option.mem_def, h]
  · intro h handle
    rw [h, Option.mem_toFinset, Option.mem_def]

end Standing

/-! ### Overtaking -/

/-- Among the calls of a visit another lock was granted than the one left over, and not given back
by the next call; or the one left over was granted again, given back by the next call, and not
released once more. -/
def Overtakes (leftover : String) (calls : List Exchange) : Prop :=
  ∃ before g after handle, calls = before ++ g :: after ∧ g.granted? = some handle ∧
    if after.head?.bind Exchange.released? = some handle then
      handle = leftover ∧ ∀ u ∈ after.tail, u.released? ≠ some leftover
    else handle ≠ leftover

/-- A lock is left over from before the visit, and another is taken up or it is overtaken. -/
def Visit.Supersedes (peer : Collaborator σ) (v : Visit σ) (c : Chain) : Prop :=
  ∃ leftover, c.handle = some leftover ∧
    ((∃ handle, v.adopted? c = some handle ∧ handle ≠ leftover) ∨
      Overtakes leftover (v.sceneAfter peer c).calls)

/-! ### Counting call by call -/

namespace Exchange

variable {e : Exchange} {handle : String} (outstanding : Finset String)

theorem settle_of_plain (hg : e.granted? = none) (hr : e.released? = none) :
    e.settle false outstanding = outstanding := by
  simp [settle, ended?, hg, hr]

theorem settle_of_granted (hg : e.granted? = some handle) :
    e.settle false outstanding = insert handle outstanding := by
  simp [settle, hg]

theorem granted?_of_released? (hr : e.released? = some handle) : e.granted? = none := by
  cases hg : e.granted? with
  | none => rfl
  | some granted => exact nomatch (call_of_granted? hg).symm.trans (call_of_released? hr)

theorem settle_of_released (hr : e.released? = some handle) :
    e.settle false outstanding = outstanding.erase handle := by
  simp [settle, ended?, granted?_of_released? hr, hr]

end Exchange

/-- The outstanding handles after some calls of which none is forced. -/
def outstandingAfter (outstanding : Finset String) (calls : List Exchange) : Finset String :=
  calls.foldl (Exchange.settle false) outstanding

@[simp] theorem outstandingAfter_append (outstanding : Finset String) (calls : List Exchange)
    (e : Exchange) : outstandingAfter outstanding (calls ++ [e]) =
      e.settle false (outstandingAfter outstanding calls) := by
  simp [outstandingAfter]

/-- No lock was granted. -/
def Grantless (calls : List Exchange) : Prop :=
  ∀ e ∈ calls, e.granted? = none

theorem Grantless.append {calls : List Exchange} {e : Exchange} (h : Grantless calls)
    (he : e.granted? = none) : Grantless (calls ++ [e]) :=
  List.forall_mem_append.2 ⟨h, by simpa using he⟩

/-- One lock was granted, with these calls after it. -/
def GrantedOnce (calls after : List Exchange) (handle : String) : Prop :=
  ∃ before g, calls = before ++ g :: after ∧ g.granted? = some handle ∧
    Grantless before ∧ Grantless after

theorem GrantedOnce.append {calls after : List Exchange} {handle : String} {e : Exchange}
    (h : GrantedOnce calls after handle) (he : e.granted? = none) :
    GrantedOnce (calls ++ [e]) (after ++ [e]) handle := by
  obtain ⟨before, g, rfl, hg, hbefore, hafter⟩ := h
  exact ⟨before, g, by simp, hg, hbefore, hafter.append he⟩

theorem not_overtakes {calls : List Exchange} (h : Grantless calls) (leftover : String) :
    ¬ Overtakes leftover calls := by
  rintro ⟨before, g, after, handle, rfl, hg, -⟩
  have hnone := h g (by simp)
  rw [hnone] at hg
  cases hg

/-- The grant that overtakes is the only one. -/
theorem GrantedOnce.overtakes_iff {calls after : List Exchange} {handle : String}
    (h : GrantedOnce calls after handle) (leftover : String) :
    Overtakes leftover calls ↔
      if after.head?.bind Exchange.released? = some handle then
        handle = leftover ∧ ∀ u ∈ after.tail, u.released? ≠ some leftover
      else handle ≠ leftover := by
  obtain ⟨before, g, rfl, hg, hbefore, hafter⟩ := h
  constructor
  · rintro ⟨before', g', after', handle', hsplit, hg', hcase⟩
    have hnone {xs : List Exchange} (hxs : Grantless xs) : g' ∉ xs := fun hmem => by
      rw [hxs g' hmem] at hg'
      cases hg'
    have hsame : g = g' ∧ after = after' := by
      rcases List.append_eq_append_iff.1 hsplit with ⟨mid, -, htail⟩ | ⟨mid, hmid, htail⟩
      · cases mid with
        | nil => simpa using htail
        | cons x mid =>
          simp only [List.cons_append, List.cons.injEq] at htail
          exact absurd (by simp [htail.2]) (hnone hafter)
      · cases mid with
        | nil =>
          simp only [List.nil_append, List.cons.injEq] at htail
          exact ⟨htail.1.symm, htail.2.symm⟩
        | cons x mid =>
          simp only [List.cons_append, List.cons.injEq] at htail
          exact absurd (by simp [hmid, htail.1]) (hnone hbefore)
    obtain ⟨rfl, rfl⟩ := hsame
    rw [hg, Option.some.injEq] at hg'
    rw [hg']
    exact hcase
  · exact fun hcase => ⟨before, g, after, handle, rfl, hg, hcase⟩

/-! ### Fates -/

/-- The chain still has the handle that it came to believe in, with these handles outstanding, or it
has released it. -/
inductive Stands (believed : Option String) (outstanding : Finset String) :
    Option String → Finset String → Prop
  | kept : Stands believed outstanding believed outstanding
  | given {handle : String} : believed = some handle →
      Stands believed outstanding none (outstanding.erase handle)

/-- No lock was granted since the chain came to believe in a handle. -/
structure Carries (believed : Option String) (outstanding : Finset String)
    (handle : Option String) (calls : List Exchange) : Prop where
  grantless : Grantless calls
  stands : Stands believed outstanding handle (outstandingAfter outstanding calls)

/-- What became of a chain that set out with a handle or none, and with no other outstanding. -/
inductive Fate (held handle : Option String) (calls : List Exchange) : Prop
  /-- No lock was granted. -/
  | carried : Carries held held.toFinset handle calls → Fate held handle calls
  /-- A lock was granted, and the chain took it. -/
  | taken {after : List Exchange} {found : String} : GrantedOnce calls after found → after ≠ [] →
      after.head?.bind Exchange.released? ≠ some found →
      Stands (some found) (insert found held.toFinset) handle
        (outstandingAfter held.toFinset calls) → Fate held handle calls
  /-- A lock was granted and given back at once. -/
  | returned {after : List Exchange} {found : String} : GrantedOnce calls after found →
      after.head?.bind Exchange.released? = some found → handle = held →
      outstandingAfter held.toFinset calls = held.toFinset.erase found →
      (∀ u ∈ after.tail, u.released? = none) → Fate held handle calls
  /-- A lock was granted and given back at once, and then the one held before. -/
  | cleared {after : List Exchange} {found leftover : String} : GrantedOnce calls after found →
      after.head?.bind Exchange.released? = some found → held = some leftover → handle = none →
      outstandingAfter held.toFinset calls = ∅ →
      (∃ u ∈ after.tail, u.released? = some leftover) → Fate held handle calls

/-- Nothing happened yet that bears on locks. -/
structure Quiet (held handle : Option String) (calls : List Exchange) : Prop where
  handle : handle = held
  grantless : Grantless calls
  outstanding : outstandingAfter held.toFinset calls = held.toFinset

/-- The latest call granted a lock, and nothing that bears on locks happened before. -/
structure JustGranted (held : Option String) (found : String) (calls : List Exchange) : Prop where
  once : GrantedOnce calls [] found
  outstanding : outstandingAfter held.toFinset calls = insert found held.toFinset

section Fates

variable {believed held handle : Option String} {outstanding : Finset String}
  {calls after : List Exchange} {e : Exchange} {found x : String}

theorem Stands.release {left : Finset String} (h : Stands believed outstanding (some x) left) :
    Stands believed outstanding none (left.erase x) := by
  cases h with
  | kept => exact .given rfl

theorem Carries.plain (h : Carries believed outstanding handle calls) (hg : e.granted? = none)
    (hr : e.released? = none) : Carries believed outstanding handle (calls ++ [e]) where
  grantless := h.grantless.append hg
  stands := by
    rw [outstandingAfter_append, Exchange.settle_of_plain _ hg hr]
    exact h.stands

theorem Carries.release (h : Carries believed outstanding (some x) calls)
    (hr : e.released? = some x) : Carries believed outstanding none (calls ++ [e]) where
  grantless := h.grantless.append (Exchange.granted?_of_released? hr)
  stands := by
    rw [outstandingAfter_append, Exchange.settle_of_released _ hr]
    exact h.stands.release

/-- One more call changes neither what came first nor, but for itself, what came later. -/
theorem head?_tail_append (hafter : after ≠ []) (e : Exchange) :
    (after ++ [e]).head? = after.head? ∧ (after ++ [e]).tail = after.tail ++ [e] :=
  ⟨List.head?_append_of_ne_nil _ hafter, List.tail_append_of_ne_nil hafter⟩

theorem ne_nil_of_head? (h : after.head?.bind Exchange.released? = some found) : after ≠ [] := by
  rintro rfl
  cases h

/-- A call that grants and releases nothing changes no fate. -/
theorem Fate.plain (h : Fate held handle calls) (hg : e.granted? = none) (hr : e.released? = none) :
    Fate held handle (calls ++ [e]) := by
  have hsettle (outstanding : Finset String) :
      outstandingAfter outstanding (calls ++ [e]) = outstandingAfter outstanding calls := by
    rw [outstandingAfter_append, Exchange.settle_of_plain _ hg hr]
  cases h with
  | carried h => exact .carried (h.plain hg hr)
  | taken once hafter hkept hstands =>
    have ⟨hhead, _⟩ := head?_tail_append hafter e
    refine .taken (once.append hg) (by simp) ?_ ?_
    · rwa [hhead]
    · rwa [hsettle]
  | returned once hback hhandle hout hlater =>
    have ⟨hhead, htail⟩ := head?_tail_append (ne_nil_of_head? hback) e
    refine .returned (once.append hg) ?_ hhandle ?_ ?_
    · rwa [hhead]
    · rwa [hsettle]
    · rw [htail]
      exact List.forall_mem_append.2 ⟨hlater, by simpa using hr⟩
  | cleared once hback hheld hhandle hout hlater =>
    have ⟨hhead, htail⟩ := head?_tail_append (ne_nil_of_head? hback) e
    refine .cleared (once.append hg) ?_ hheld hhandle ?_ ?_
    · rwa [hhead]
    · rwa [hsettle]
    · obtain ⟨u, hu, hr⟩ := hlater
      rw [htail]
      exact ⟨u, List.mem_append_left _ hu, hr⟩

/-- Releasing the handle that is held leads from fate to fate. -/
theorem Fate.release (h : Fate held (some x) calls) (hr : e.released? = some x) :
    Fate held none (calls ++ [e]) := by
  have hg := Exchange.granted?_of_released? hr
  have hsettle (outstanding : Finset String) :
      outstandingAfter outstanding (calls ++ [e]) =
        (outstandingAfter outstanding calls).erase x := by
    rw [outstandingAfter_append, Exchange.settle_of_released _ hr]
  cases h with
  | carried h => exact .carried (h.release hr)
  | taken once hafter hkept hstands =>
    have ⟨hhead, _⟩ := head?_tail_append hafter e
    refine .taken (once.append hg) (by simp) ?_ ?_
    · rwa [hhead]
    · rw [hsettle]
      exact hstands.release
  | returned once hback hhandle hout hlater =>
    have ⟨hhead, htail⟩ := head?_tail_append (ne_nil_of_head? hback) e
    refine .cleared (once.append hg) ?_ hhandle.symm rfl ?_ ?_
    · rwa [hhead]
    · rw [hsettle, hout, ← hhandle, Finset.erase_right_comm]
      simp
    · rw [htail]
      exact ⟨e, by simp, hr⟩
  | cleared _ _ _ hhandle => cases hhandle

theorem Quiet.plain (h : Quiet held handle calls) (hg : e.granted? = none)
    (hr : e.released? = none) : Quiet held handle (calls ++ [e]) where
  handle := h.handle
  grantless := h.grantless.append hg
  outstanding := by
    rw [outstandingAfter_append, Exchange.settle_of_plain _ hg hr]
    exact h.outstanding

theorem Quiet.fate (h : Quiet held handle calls) : Fate held handle calls := by
  refine .carried ⟨h.grantless, ?_⟩
  rw [h.handle, h.outstanding]
  exact .kept

theorem Quiet.granted (h : Quiet held handle calls) (hg : e.granted? = some found) :
    JustGranted held found (calls ++ [e]) where
  once := ⟨calls, e, rfl, hg, h.grantless, by simp [Grantless]⟩
  outstanding := by rw [outstandingAfter_append, Exchange.settle_of_granted _ hg, h.outstanding]

/-- A lock that the next call gives back leaves the chain with the handle that it held. -/
theorem JustGranted.returned (h : JustGranted held found calls) (hh : handle = held)
    (hr : e.released? = some found) : Fate held handle (calls ++ [e]) := by
  refine .returned (h.once.append (Exchange.granted?_of_released? hr)) hr hh ?_ (by simp)
  rw [outstandingAfter_append, h.outstanding, Exchange.settle_of_released _ hr,
    Finset.erase_insert_eq_erase]

/-- A lock that the next call does not give back is taken. -/
theorem JustGranted.taken (h : JustGranted held found calls) (hh : handle = some found)
    (hg : e.granted? = none) (hr : e.released? = none) : Fate held handle (calls ++ [e]) := by
  refine .taken (h.once.append hg) (by simp) (by simp [hr]) ?_
  rw [outstandingAfter_append, h.outstanding, Exchange.settle_of_plain _ hg hr, hh]
  exact .kept

/-- A chain that believes in what it held is in step. -/
theorem Stands.inStep (h : Stands held held.toFinset handle outstanding) :
    outstanding = handle.toFinset := by
  cases h with
  | kept => rfl
  | given hheld => simp [hheld]

/-- A chain that came to believe in another handle is in step just where that is the one it held. -/
theorem Stands.inStep_iff
    (h : Stands (some found) (insert found held.toFinset) handle outstanding) :
    outstanding = handle.toFinset ↔ ∀ leftover, held = some leftover → found = leftover := by
  cases h with
  | kept =>
    cases held with
    | none => simp
    | some leftover => simp [Finset.ext_iff, eq_comm]
  | given hbelieved =>
    obtain rfl := Option.some.inj hbelieved
    cases held with
    | none => simp
    | some leftover =>
      rw [Finset.erase_insert_eq_erase, Option.toFinset_some, Option.toFinset_none,
        Finset.erase_eq_empty_iff]
      simp [eq_comm]

/-- **A fate is in step just where nothing was overtaken.** -/
theorem Fate.inStep_iff (h : Fate held handle calls) :
    outstandingAfter held.toFinset calls = handle.toFinset ↔
      ∀ leftover, held = some leftover → ¬ Overtakes leftover calls := by
  cases h with
  | carried h =>
    exact ⟨fun _ leftover _ => not_overtakes h.grantless leftover, fun _ => h.stands.inStep⟩
  | taken once _ hkept hstands =>
    rw [hstands.inStep_iff]
    refine forall₂_congr fun leftover _ => ?_
    rw [once.overtakes_iff, if_neg hkept, not_not]
  | @returned after found once hback hhandle hout hlater =>
    rw [hout, hhandle, Finset.erase_eq_self]
    simp only [Option.mem_toFinset, Option.mem_def]
    constructor
    · intro hne leftover hheld hover
      rw [once.overtakes_iff, if_pos hback] at hover
      exact hne (hover.1 ▸ hheld)
    · intro hnone hheld
      refine hnone found hheld ?_
      rw [once.overtakes_iff, if_pos hback]
      exact ⟨rfl, fun u hu => by simp [hlater u hu]⟩
  | @cleared after found leftover once hback hheld hhandle hout hlater =>
    refine ⟨fun _ other hother hover => ?_, fun _ => by rw [hout, hhandle]; rfl⟩
    rw [once.overtakes_iff, if_pos hback] at hover
    obtain ⟨u, hu, hr⟩ := hlater
    rw [← hheld, hother] at hr
    exact hover.2 u hu hr

end Fates

end EditLock
