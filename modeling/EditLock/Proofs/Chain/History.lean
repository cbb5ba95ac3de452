/-
# Histories of locks and updates

What bears on the locks and the source of an object, in order: the locks that a chain takes, and the
calls that it makes. A lock is taken when asking for it, or taking up a recorded one, ends well; one
that was granted and could not be recorded is not taken.

A history is disciplined if one lock is taken at most, if every update carries the handle of a lock
that was taken before it and not ended since, and if one update at most is answered. To stay so, a
chain needs to know little of its history: whether a lock was taken yet, and that the handle which it
holds from then on is the one that it took (`Course`). The stages of a held lock lead only further
on (`Stage.Onward`), so that no second lock and no second update is ever in order.

Key definitions: `LockEvent`, `Scene.events`, `HeldSince`, `Disciplined`, `Stage.Onward`, `Course`.
Key theorems: `Scene.taken?_events`, `Scene.exchange?_events`, `Disciplined.append`,
`Course.append`, `Course.append_taken`, `Course.append_update`.
-/
import EditLock.Proofs.Chain.MutualExclusion
import EditLock.Proofs.Chain.Outstanding

namespace EditLock

variable {σ : Type}

/-! ### Events -/

/-- What bears on the lock and the source of an object. -/
inductive LockEvent where
  /-- A lock was taken: granted and recorded, or taken up. -/
  | taken (handle : String)
  /-- A call was made, by an operation that forces a release or by another. -/
  | called (forced : Bool) (e : Exchange)

namespace LockEvent

/-- The handle of a lock that was taken. -/
def taken? : LockEvent → Option String
  | taken handle => some handle
  | called .. => none

/-- The call that was made, with what came of it. -/
def exchange? : LockEvent → Option Exchange
  | taken _ => none
  | called _ e => some e

/-- The handle that was put an end to. -/
def ended? : LockEvent → Option String
  | taken _ => none
  | called forced e => e.ended? forced

/-- The handle that an update carried. -/
def update? : LockEvent → Option String
  | called _ ⟨.update handle _, _, _⟩ => some handle
  | _ => none

/-- Whether an update was answered. -/
def isUpdated : LockEvent → Bool
  | called _ ⟨.update .., _, .ok _⟩ => true
  | _ => false

theorem isUpdated_eq_false {ev : LockEvent} (h : ev.update? = none) : ev.isUpdated = false := by
  unfold update? at h
  unfold isUpdated
  split at h <;> simp_all

theorem of_update? {ev : LockEvent} {handle : String} (h : ev.update? = some handle) :
    ev.taken? = none ∧ ev.ended? = none := by
  unfold update? at h
  split at h
  · rename_i forced _ _ _ _
    cases forced <;> exact ⟨rfl, rfl⟩
  · cases h

/-- The events of some calls and of the locks that were taken at them, each list with the latest
first: a lock was taken at the latest call that granted its handle. -/
def retrace (forced : Bool) : List Exchange → List String → List LockEvent
  | [], locks => locks.map taken
  | e :: calls, [] => called forced e :: retrace forced calls []
  | e :: calls, handle :: locks =>
    if e.granted? = some handle then taken handle :: called forced e :: retrace forced calls locks
    else called forced e :: retrace forced calls (handle :: locks)

variable (forced : Bool) {e : Exchange} {handle : String} (calls : List Exchange)
  (locks : List String)

/-- Nothing is taken at a call that grants nothing. -/
theorem retrace_of_granted?_none (h : e.granted? = none) :
    retrace forced (e :: calls) locks = called forced e :: retrace forced calls locks := by
  cases locks <;> simp [retrace, h]

theorem retrace_of_granted? (h : e.granted? = some handle) :
    retrace forced (e :: calls) (handle :: locks) =
      taken handle :: called forced e :: retrace forced calls locks := by
  simp [retrace, h]

theorem filterMap_taken?_retrace : (retrace forced calls locks).filterMap taken? = locks := by
  fun_induction retrace forced calls locks with
  | case1 locks => simp [taken?, List.filterMap_map, Function.comp_def]
  | case2 e calls ih => simpa [List.filterMap_cons, taken?] using ih
  | case3 e calls handle locks hg ih => simpa [List.filterMap_cons, taken?] using ih
  | case4 e calls handle locks hg ih => simpa [List.filterMap_cons, taken?] using ih

theorem filterMap_exchange?_retrace :
    (retrace forced calls locks).filterMap exchange? = calls := by
  fun_induction retrace forced calls locks with
  | case1 locks => simp [exchange?, List.filterMap_map, Function.comp_def]
  | case2 e calls ih => simpa [List.filterMap_cons, exchange?] using ih
  | case3 e calls handle locks hg ih => simpa [List.filterMap_cons, exchange?] using ih
  | case4 e calls handle locks hg ih => simpa [List.filterMap_cons, exchange?] using ih

end LockEvent

namespace Scene

/-- What happened on a scene, in order. -/
def events (s : Scene σ) (forced : Bool) : List LockEvent :=
  (LockEvent.retrace forced s.calls.reverse s.announced.reverse).reverse

variable (s : Scene σ) (forced : Bool)

/-- The locks among the events are those that were announced. -/
@[simp] theorem taken?_events : (s.events forced).filterMap LockEvent.taken? = s.announced := by
  rw [events, List.filterMap_reverse, LockEvent.filterMap_taken?_retrace, List.reverse_reverse]

/-- The calls among the events are those that were made. -/
@[simp] theorem exchange?_events :
    (s.events forced).filterMap LockEvent.exchange? = s.calls := by
  rw [events, List.filterMap_reverse, LockEvent.filterMap_exchange?_retrace, List.reverse_reverse]

/-- Before a lock is announced, the events are the calls. -/
theorem events_of_announced_nil (h : s.announced = []) :
    s.events forced = s.calls.map (.called forced) := by
  have hcalls (calls : List Exchange) :
      LockEvent.retrace forced calls [] = calls.map (.called forced) := by
    induction calls with
    | nil => rfl
    | cons e calls ih => simp [LockEvent.retrace, ih]
  rw [events, h, List.reverse_nil, hcalls, List.map_reverse, List.reverse_reverse]

variable {s} {s' : Scene σ} {e : Exchange}

/-- A call that grants nothing is one more event. -/
theorem events_append (hcalls : s'.calls = s.calls ++ [e]) (hannounced : s'.announced = s.announced)
    (h : e.granted? = none) : s'.events forced = s.events forced ++ [.called forced e] := by
  simp [events, hcalls, hannounced, LockEvent.retrace_of_granted?_none forced _ _ h]

/-- A lock that is taken follows the call that granted it. -/
theorem events_append_taken {handle : String} (hcalls : s'.calls = s.calls ++ [e])
    (hannounced : s'.announced = s.announced ++ [handle]) (h : e.granted? = some handle) :
    s'.events forced = s.events forced ++ [.called forced e] ++ [.taken handle] := by
  simp [events, hcalls, hannounced, LockEvent.retrace_of_granted? forced _ _ h]

end Scene

/-! ### Discipline -/

/-- A lock was taken under this handle, and nothing ended the handle since. -/
def HeldSince (events : List LockEvent) (handle : String) : Prop :=
  ∃ before since, events = before ++ .taken handle :: since ∧
    ∀ ev ∈ since, ev.ended? ≠ some handle

/-- One lock is taken at most, each update carries the handle of a lock that was taken before it and
not ended since, and one update at most is answered. -/
structure Disciplined (events : List LockEvent) : Prop where
  taken : (events.filterMap LockEvent.taken?).length ≤ 1
  update : ∀ {before ev after handle}, events = before ++ ev :: after →
    ev.update? = some handle → HeldSince before handle
  updated : events.countP LockEvent.isUpdated ≤ 1

section Histories

variable {events : List LockEvent} {ev : LockEvent} {handle : String}

theorem heldSince_taken (events : List LockEvent) (handle : String) :
    HeldSince (events ++ [.taken handle]) handle :=
  ⟨events, [], rfl, by simp⟩

theorem HeldSince.append (h : HeldSince events handle) (hev : ev.ended? ≠ some handle) :
    HeldSince (events ++ [ev]) handle := by
  obtain ⟨before, since, rfl, hsince⟩ := h
  refine ⟨before, since ++ [ev], by simp, fun other hother => ?_⟩
  rcases List.mem_append.1 hother with hother | hother
  · exact hsince other hother
  · rw [List.mem_singleton.1 hother]
    exact hev

theorem disciplined_nil : Disciplined [] where
  taken := by simp
  update h := by simp at h
  updated := by simp

/-- One more event leaves a history disciplined if it takes the first lock, if it carries a handle
that is held, and if it is the first update that is answered. -/
theorem Disciplined.append (h : Disciplined events)
    (htaken : ev.taken? = none ∨ events.filterMap LockEvent.taken? = [])
    (hupdate : ∀ handle, ev.update? = some handle → HeldSince events handle)
    (hupdated : ev.isUpdated = false ∨ events.countP LockEvent.isUpdated = 0) :
    Disciplined (events ++ [ev]) where
  taken := by
    rw [List.filterMap_append, List.length_append]
    have hlast := List.length_filterMap_le LockEvent.taken? [ev]
    rcases htaken with hnone | hnil
    · simpa [List.filterMap_cons, hnone] using h.taken
    · simpa [hnil] using hlast
  update {before x after handle} hsplit hx := by
    rcases append_singleton_split hsplit with ⟨rfl, rfl, -⟩ | ⟨rest, -, hevents⟩
    · exact hupdate handle hx
    · exact h.update hevents hx
  updated := by
    rw [List.countP_append]
    have hlast := List.countP_le_length (p := LockEvent.isUpdated) (l := [ev])
    rcases hupdated with hfalse | hzero
    · simpa [hfalse] using h.updated
    · simpa [hzero] using hlast

end Histories

namespace Stage

/-- Whether a lock was taken on the way to this stage, if one was taken at all. -/
def isPastLock : Stage → Bool
  | locked | checkedWithPayload | updated | unlocked | checkedFinal | activated | done => true
  | _ => false

/-- Whether no update is in order any more. -/
def isPastUpdate : Stage → Bool
  | updated | unlocked | checkedFinal | activated | done => true
  | _ => false

variable {stage next : Stage} {step : Step}

theorem isPastLock_of_next? (h : stage.next? step = some next) (hpast : stage.isPastLock = true) :
    next.isPastLock = true := by
  cases stage <;> cases step <;> simp_all [next?, isPastLock] <;> subst h <;> rfl

theorem isPastUpdate_of_next? (h : stage.next? step = some next)
    (hpast : stage.isPastUpdate = true) : next.isPastUpdate = true := by
  cases stage <;> cases step <;> simp_all [next?, isPastUpdate] <;> subst h <;> rfl

/-- A lock is asked for at most once. -/
theorem of_next?_lock (h : stage.next? .lock = some next) :
    stage.isPastLock = false ∧ next.isPastLock = true := by
  cases stage <;> simp_all [next?, isPastLock] <;> subst h <;> rfl

/-- An update is in order only under a lock, and ends the stages in which one is. -/
theorem of_next?_update (h : stage.next? .update = some next) :
    stage.isLocked = true ∧ stage.isPastUpdate = false ∧ next = .updated := by
  cases stage <;> simp_all [next?, isLocked, isPastUpdate]

/-- One stage follows another without a lock being taken: no stage of a held lock is entered, and
none that an update or a lock leads to is left for an earlier one. -/
structure Onward (stage next : Stage) : Prop where
  isLocked : next.isLocked = true → stage.isLocked = true
  isPastLock : stage.isPastLock = true → next.isPastLock = true
  isPastUpdate : stage.isPastUpdate = true → next.isPastUpdate = true

theorem Onward.refl (stage : Stage) : stage.Onward stage :=
  ⟨id, id, id⟩

theorem onward_of_next? (h : stage.next? step = some next) (hstep : step ≠ .lock) :
    stage.Onward next :=
  ⟨isLocked_of_next? h hstep, isPastLock_of_next? h, isPastUpdate_of_next? h⟩

/-- A stage after the release of a lock follows every other. -/
theorem onward_of_released (hlocked : next.isLocked = false) (hlock : next.isPastLock = true)
    (hupdate : next.isPastUpdate = true) : stage.Onward next where
  isLocked h := by simp [hlocked] at h
  isPastLock _ := hlock
  isPastUpdate _ := hupdate

end Stage

/-! ### How a chain stands -/

/-- No lock was taken, and no stage of a held lock was reached. -/
structure Untaken (events : List LockEvent) (stage : Stage) : Prop where
  taken : events.filterMap LockEvent.taken? = []
  updated : events.countP LockEvent.isUpdated = 0
  stage : stage.isLocked = false

/-- A lock was taken, and it is the one that is held, if one is. -/
structure Taken (events : List LockEvent) (stage : Stage) (handle : Option String) : Prop where
  held : ∀ x, handle = some x → HeldSince events x
  updated : stage.isPastUpdate = true ∨ events.countP LockEvent.isUpdated = 0
  stage : stage.isPastLock = true

/-- How a chain stands after a history. -/
structure Course (events : List LockEvent) (stage : Stage) (handle : Option String) : Prop where
  disciplined : Disciplined events
  stands : Untaken events stage ∨ Taken events stage handle

section Courses

variable {events : List LockEvent} {stage next : Stage} {handle handle' : Option String}
  {ev : LockEvent}

/-- A chain for which a lock is in order has taken none. -/
theorem Course.untaken (h : Course events stage handle) (order : stage.next? .lock = some next) :
    Untaken events stage := by
  rcases h.stands with hun | htaken
  · exact hun
  · have hpast := htaken.stage
    exact nomatch (Stage.of_next?_lock order).1.symm.trans hpast

theorem Untaken.append (h : Untaken events stage) (htaken : ev.taken? = none)
    (hupdated : ev.isUpdated = false) : Untaken (events ++ [ev]) stage where
  taken := by simp [List.filterMap_append, h.taken, htaken]
  updated := by simp [List.countP_append, h.updated, hupdated]
  stage := h.stage

/-- Going on to a later stage, with the same handle or with none. -/
theorem Course.goesOn (h : Course events stage handle) (onward : stage.Onward next)
    (hhandle : ∀ x, handle' = some x → handle = some x) : Course events next handle' := by
  refine ⟨h.disciplined, h.stands.imp (fun hun => ?_) fun htaken => ?_⟩
  · have hunlocked : next.isLocked = false := by
      rw [← Bool.not_eq_true]
      exact fun hlocked => nomatch hun.stage.symm.trans (onward.isLocked hlocked)
    exact ⟨hun.taken, hun.updated, hunlocked⟩
  · exact ⟨fun x hx => htaken.held x (hhandle x hx),
      htaken.updated.imp_left onward.isPastUpdate, onward.isPastLock htaken.stage⟩

/-- One more call, other than an update, that does not end a handle that is still held. -/
theorem Course.append (h : Course events stage handle) (htaken : ev.taken? = none)
    (hupdate : ev.update? = none) (hended : ∀ x, handle = some x → ev.ended? ≠ some x) :
    Course (events ++ [ev]) stage handle := by
  have hupdated := LockEvent.isUpdated_eq_false hupdate
  refine ⟨h.disciplined.append (.inl htaken) (by simp [hupdate]) (.inl hupdated),
    h.stands.imp (fun hun => hun.append htaken hupdated) fun hheld => ?_⟩
  refine ⟨fun x hx => (hheld.held x hx).append (hended x hx), ?_, hheld.stage⟩
  simpa [List.countP_append, hupdated] using hheld.updated

/-- A chain for which an update is in order has taken a lock, and no update was answered. -/
theorem Course.taken (h : Course events stage handle)
    (order : stage.next? .update = some next) :
    Taken events stage handle ∧ events.countP LockEvent.isUpdated = 0 := by
  have ⟨hlocked, hpast, _⟩ := Stage.of_next?_update order
  rcases h.stands with hun | htaken
  · exact nomatch hun.stage.symm.trans hlocked
  · refine ⟨htaken, htaken.updated.resolve_left ?_⟩
    simp [hpast]

/-- An update carries the handle that is held, and is the last that is in order if it is
answered. -/
theorem Course.append_update {x : String} (h : Course events stage handle)
    (order : stage.next? .update = some next) (held : handle = some x)
    (hupdate : ev.update? = some x) {stage' : Stage}
    (hstage : stage' = next ∨ stage' = stage ∧ ev.isUpdated = false) :
    Course (events ++ [ev]) stage' handle := by
  have ⟨htaken, hnone⟩ := h.taken order
  have ⟨hev, hended⟩ := LockEvent.of_update? hupdate
  have hheld (y : String) (hy : handle = some y) : HeldSince (events ++ [ev]) y :=
    (htaken.held y hy).append (by simp [hended])
  have hdisciplined : Disciplined (events ++ [ev]) := by
    refine h.disciplined.append (.inl hev) (fun y hy => htaken.held y ?_) (.inr hnone)
    rw [held, ← hupdate, hy]
  refine ⟨hdisciplined, .inr ?_⟩
  rcases hstage with rfl | ⟨rfl, hfailed⟩
  · have hpast : stage'.isPastUpdate = true := by
      rw [(Stage.of_next?_update order).2.2]
      rfl
    exact ⟨hheld, .inl hpast, Stage.isPastLock_of_next? order htaken.stage⟩
  · exact ⟨hheld, .inr (by simp [List.countP_append, hnone, hfailed]), htaken.stage⟩

/-- A call other than an update, whatever becomes of the handle: no lock was taken that it could be
of. -/
theorem Course.append_untaken (h : Course events stage handle) (hun : Untaken events stage)
    (ev : LockEvent) (htaken : ev.taken? = none) (hupdate : ev.update? = none)
    (handle' : Option String) :
    Course (events ++ [ev]) stage handle' ∧ Untaken (events ++ [ev]) stage := by
  have hupdated := LockEvent.isUpdated_eq_false hupdate
  have hun' := hun.append htaken hupdated
  exact ⟨⟨h.disciplined.append (.inl htaken) (by simp [hupdate]) (.inl hupdated), .inl hun'⟩, hun'⟩

/-- Taking the first lock. -/
theorem Course.append_taken (h : Course events stage handle) (hun : Untaken events stage)
    (hnext : next.isPastLock = true) (x : String) :
    Course (events ++ [.taken x]) next (some x) := by
  refine ⟨h.disciplined.append (.inr hun.taken) nofun (.inl rfl), .inr ⟨?_, .inr ?_, hnext⟩⟩
  · rintro y ⟨⟩
    exact heldSince_taken events x
  · simpa [List.countP_append, LockEvent.isUpdated] using hun.updated

end Courses

end EditLock
