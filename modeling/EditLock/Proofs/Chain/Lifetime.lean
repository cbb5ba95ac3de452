/-
# The lifetime of a chain

Over all that is asked of a chain, in whatever order and with whatever answers, its history stays
disciplined. Each case of each step and of the clean-up leaves a chain on course
(`Chain.steady_onCourse`), so every operation does; taking up a recorded lock is an event before the
first call, and a forced release the last of what happens to a handle.

That the handle of an update was released before it was taken is possible, if the server grants a
handle again (`Chain.grantedAgain_updates_released`).

Key definitions: `Scene.OnCourse`, `Visit.events`, `Chain.history`.
Key theorems: `Chain.steady_onCourse`, `Visit.course_after`, `Chain.history_disciplined`.
-/
import EditLock.Proofs.Chain.History

namespace EditLock

variable {σ : Type}

/-- How the chain of a scene stands, after what happened earlier and what happened on the scene. -/
def Scene.OnCourse (earlier : List LockEvent) (s : Scene σ) : Prop :=
  Course (earlier ++ s.events false) s.chain.stage s.chain.handle

namespace Scene.OnCourse

variable {earlier : List LockEvent} {s s' : Scene σ} {e : Exchange}

/-- Going on without a call. -/
theorem goesOn (h : s.OnCourse earlier) (hcalls : s'.calls = s.calls)
    (hannounced : s'.announced = s.announced) (onward : s.chain.stage.Onward s'.chain.stage)
    (hhandle : ∀ x, s'.chain.handle = some x → s.chain.handle = some x) : s'.OnCourse earlier := by
  have hevents : s'.events false = s.events false := by simp [Scene.events, hcalls, hannounced]
  unfold OnCourse
  rw [hevents]
  exact Course.goesOn h onward hhandle

/-- Going on with a call that grants nothing and is no update. -/
theorem asked (h : s.OnCourse earlier) (hcalls : s'.calls = s.calls ++ [e])
    (hannounced : s'.announced = s.announced) (hgranted : e.granted? = none)
    (hupdate : (LockEvent.called false e).update? = none)
    (onward : s.chain.stage.Onward s'.chain.stage)
    (hhandle : ∀ x, s'.chain.handle = some x → s.chain.handle = some x ∧ e.released? ≠ some x) :
    s'.OnCourse earlier := by
  have hgone : Course (earlier ++ s.events false) s'.chain.stage s'.chain.handle :=
    Course.goesOn h onward fun x hx => (hhandle x hx).1
  unfold OnCourse
  rw [events_append false hcalls hannounced hgranted, ← List.append_assoc]
  exact hgone.append rfl hupdate fun x hx => (hhandle x hx).2

end Scene.OnCourse

namespace Chain

open Act Registry

variable {peer : Collaborator σ} {earlier : List LockEvent} {s : Scene σ}

/-- A plain call that is no update. -/
theorem AskRun.onCourse {step : Step} {call : Call} {out : Except Failure call.Answer × Scene σ}
    (h : AskRun peer step call s out) (hstep : call.step = step) (hidle : call.isIdle = true)
    (hs : s.OnCourse earlier) : out.2.OnCourse earlier := by
  have hplain := Call.isPlain_of_isIdle hidle
  have hlock : step ≠ .lock := hstep ▸ Call.isPlain_step hplain
  have hupdate (mode : SessionMode) (result : Except Failure call.Answer) :
      (LockEvent.called false ⟨call, mode, result⟩).update? = none := by
    cases call <;> first | rfl | cases hidle
  have hreleased (mode : SessionMode) (result : Except Failure call.Answer) (x : String) :
      Exchange.released? ⟨call, mode, result⟩ ≠ some x := by
    rw [Exchange.released?_of_isPlain hplain]
    simp
  cases h with
  | rejected => exact hs
  | failed =>
    exact hs.asked rfl rfl (Exchange.granted?_of_isPlain hplain) (hupdate ..) (.refl _)
      fun x hx => ⟨hx, hreleased _ _ x⟩
  | answered order =>
    exact hs.asked rfl rfl (Exchange.granted?_of_isPlain hplain) (hupdate ..)
      (Stage.onward_of_next? order hlock) fun x hx => ⟨hx, hreleased _ _ x⟩

theorem AskRun.onCourse_update {handle payload : String}
    {out : Except Failure (Call.update handle payload).Answer × Scene σ}
    (h : AskRun peer .update (.update handle payload) s out) (held : s.chain.handle = some handle)
    (hs : s.OnCourse earlier) : out.2.OnCourse earlier := by
  have hevents : (s.asked peer (.update handle payload)).events false =
      s.events false ++ [.called false
        ⟨.update handle payload, s.chain.mode, s.answer peer (.update handle payload)⟩] :=
    Scene.events_append false rfl rfl rfl
  cases h with
  | rejected => exact hs
  | failed order answer =>
    show Course (earlier ++ (s.asked peer (.update handle payload)).events false) _ _
    rw [hevents, ← List.append_assoc]
    refine Course.append_update hs order held rfl (.inr ⟨rfl, ?_⟩)
    rw [answer]
    rfl
  | answered order =>
    show Course (earlier ++ (s.asked peer (.update handle payload)).events false) _ _
    rw [hevents, ← List.append_assoc]
    exact Course.append_update hs order held rfl (.inl rfl)

/-- A lock is taken, or refused; or it was granted and is given back at once. -/
theorem LockRun.onCourse {out : Except Failure String × Scene σ} (h : LockRun peer s out)
    (hs : s.OnCourse earlier) : out.2.OnCourse earlier := by
  cases h with
  | rejected => exact hs
  | refused order answer =>
    refine hs.asked (e := ⟨.lock, .stateful, (s.routed .stateful).answer peer .lock⟩)
      rfl rfl ?_ rfl (.refl _) fun x hx => ⟨hx, nofun⟩
    rw [answer]
    rfl
  | @unrecorded _ handle _ registry s' order answer written release =>
    have huntaken := Course.untaken hs order
    have hannounced : s.announced = [] := by
      have htaken := huntaken.taken
      rw [List.filterMap_append, s.taken?_events] at htaken
      exact (List.append_eq_nil_iff.1 htaken).2
    have ⟨hcalls, hannounced'⟩ := release.calls
    set result := ((lockAsked peer s).withRegistry registry).answer peer (.unlock handle)
    -- the grant is not that of a lock that was taken, for none was
    have hevents : s'.events false = s.events false ++
        [.called false ⟨.lock, .stateful, .ok handle⟩] ++
        [.called false ⟨.unlock handle, .stateful, result⟩] := by
      rw [s.events_of_announced_nil _ hannounced,
        s'.events_of_announced_nil _ (hannounced'.trans hannounced), hcalls]
      simp [answer]
    have ⟨hasked, hasked'⟩ := hs.append_untaken huntaken
      (.called false ⟨.lock, .stateful, .ok handle⟩) rfl rfl none
    have ⟨hgiven, _⟩ := hasked.append_untaken hasked'
      (.called false ⟨.unlock handle, .stateful, result⟩) rfl rfl s'.chain.handle
    have hstage : s'.chain.stage = s.chain.stage := release.stage
    show Course _ _ _
    rw [hevents, hstage]
    simpa [List.append_assoc] using hgiven
  | @recorded next handle registry order answer written =>
    have huntaken := Course.untaken hs order
    have hgranted : Exchange.granted? ⟨.lock, .stateful, (s.routed .stateful).answer peer .lock⟩ =
        some handle := by
      rw [answer]
      rfl
    have ⟨hasked, hasked'⟩ := hs.append_untaken huntaken
      (.called false ⟨.lock, .stateful, (s.routed .stateful).answer peer .lock⟩) rfl rfl none
    unfold Scene.OnCourse
    rw [Scene.events_append_taken false rfl rfl hgranted, ← List.append_assoc, ← List.append_assoc]
    exact hasked.append_taken hasked' (Stage.of_next?_lock order).2 handle

theorem UnlockRun.onCourse {out : Except Failure Response × Scene σ} (h : UnlockRun peer s out)
    (hs : s.OnCourse earlier) : out.2.OnCourse earlier := by
  cases h with
  | rejected => exact hs
  | @refused next handle e order held answer =>
    refine hs.asked (e := ⟨.unlock handle, s.chain.mode, s.answer peer (.unlock handle)⟩)
      rfl rfl rfl rfl (.refl _) fun x hx => ⟨hx, ?_⟩
    rw [answer]
    exact nofun
  | released order held answer removal =>
    exact hs.asked rfl rfl rfl rfl (Stage.onward_of_next? order (by decide)) nofun

theorem UndoLockRun.onCourse {s' : Scene σ} (h : UndoLockRun peer s s')
    (hs : s.OnCourse earlier) : s'.OnCourse earlier := by
  cases h with
  | nothing => exact hs
  | released => exact hs.asked rfl rfl rfl rfl (.refl _) nofun
  | @kept handle e held answer warning =>
    refine hs.asked (e := ⟨.unlock handle, .stateful, (s.routed .stateful).answer peer (.unlock handle)⟩)
      rfl rfl rfl rfl (.refl _) fun x hx => ⟨hx, ?_⟩
    rw [answer]
    exact nofun

theorem UndoCreateRun.onCourse {s' : Scene σ} (h : UndoCreateRun peer s s')
    (hs : s.OnCourse earlier) : s'.OnCourse earlier := by
  cases h with
  | nothing => exact hs
  | deleted => exact hs.asked rfl rfl rfl rfl (.refl _) fun x hx => ⟨hx, nofun⟩
  | kept => exact hs.asked rfl rfl rfl rfl (.refl _) fun x hx => ⟨hx, nofun⟩

/-- **Every step and the clean-up leave a chain on course**, but for taking up a lock. -/
theorem steady_onCourse (peer : Collaborator σ) (earlier : List LockEvent) :
    Steady peer (Scene.OnCourse earlier) where
  ask _ _ _ _ hr hstep hidle hs := hr.onCourse hstep hidle hs
  update hs held hr := hr.onCourse_update held hs
  lock hs hr := hr.onCourse hs
  unlock hs hr := hr.onCourse hs
  undoLock hs hr := hr.onCourse hs
  undoCreate hs hr := hr.onCourse hs
  failure _ _ hs := hs
  warning _ hs := hs
  rest hs := hs
  settled hs := hs.goesOn rfl rfl (Stage.onward_of_released rfl rfl rfl) fun _ hx => hx
  finished hs _ := hs.goesOn rfl rfl (Stage.onward_of_released rfl rfl rfl) fun _ hx => hx

end Chain

/-! ### Visits -/

namespace Visit

/-- What happens at a visit, in order: a recorded lock is taken up before any call. -/
def events (peer : Collaborator σ) (v : Visit σ) (c : Chain) : List LockEvent :=
  (v.adopted? c).toList.map .taken ++ (v.sceneAfter peer c).events v.forced

variable {peer : Collaborator σ} {v : Visit σ} {c : Chain} {earlier : List LockEvent}

/-- The visit has only begun. -/
theorem onCourse_scene (h : Course earlier c.stage c.handle) : (v.scene c).OnCourse earlier := by
  have hevents : (v.scene c).events false = [] := rfl
  unfold Scene.OnCourse
  rw [hevents, List.append_nil]
  exact h

/-- Taking up a recorded lock, or failing to. -/
theorem resumed_onCourse (h : Course earlier c.stage c.handle) :
    (((Chain.resumeLock : Act σ String).perform (v.scene c)).2).OnCourse
      (earlier ++ ((Chain.resumeLock : Act σ String).perform (v.scene c)).1.toOption.toList.map
        .taken) := by
  have hrun := Chain.resumeLock_run (v.scene c)
  have hscene := onCourse_scene (v := v) h
  generalize (Chain.resumeLock : Act σ String).perform (v.scene c) = out at hrun ⊢
  cases hrun with
  | rejected =>
    show Scene.OnCourse (earlier ++ []) _
    rw [List.append_nil]
    exact hscene
  | failed =>
    show Scene.OnCourse (earlier ++ []) _
    rw [List.append_nil]
    exact hscene
  | @resumed next row record order found decoded own =>
    show Course (earlier ++ [.taken record.handle] ++ []) next (some record.handle)
    rw [List.append_nil]
    exact h.append_taken (h.untaken order) (Stage.of_next?_lock order).2 record.handle

/-- A forced release makes one call at most, and the chain holds no lock after it. -/
theorem forced_onCourse {out : Except Failure ForceUnlock × Scene σ}
    (hr : Chain.ForceRun peer (v.scene c) out) (h : Course earlier c.stage c.handle) :
    Course (earlier ++ out.2.events true) out.2.chain.stage out.2.chain.handle := by
  have hstage : c.stage.Onward (if c.stage.isLocked then .unlocked else c.stage) := by
    split
    · exact Stage.onward_of_released rfl rfl rfl
    · exact .refl c.stage
  have hgone : Course earlier (if c.stage.isLocked then .unlocked else c.stage) none :=
    h.goesOn hstage nofun
  have hquiet : Course (earlier ++ []) c.stage c.handle := by
    rw [List.append_nil]
    exact h
  cases hr with
  | lookupFailed => exact hquiet
  | nothingHeld => exact hquiet
  | stuck => exact hgone.append rfl rfl nofun
  | unlocked => exact hgone.append rfl rfl nofun
  | unlockFailed => exact hgone.append rfl rfl nofun

theorem adopted?_of_resumes (h : v.operation.resumes = true) :
    v.adopted? c = ((Chain.resumeLock : Act σ String).perform (v.scene c)).1.toOption := by
  unfold adopted?
  cases hop : v.operation <;> first | rfl | (rw [hop] at h; cases h)

theorem adopted?_of_not_resumes (h : v.operation.resumes = false) : v.adopted? c = none := by
  unfold adopted?
  cases hop : v.operation <;> first | rfl | (rw [hop] at h; cases h)

/-- An operation that begins by taking up a recorded lock. -/
theorem resumes_onCourse (hop : v.operation.resumes = true)
    (h : Course earlier c.stage c.handle) :
    (v.sceneAfter peer c).OnCourse (earlier ++ (v.adopted? c).toList.map .taken) := by
  have hresumed := resumed_onCourse (v := v) h
  rw [← adopted?_of_resumes hop] at hresumed
  unfold sceneAfter
  cases hoperation : v.operation with
  | resumeLock =>
    have hdiscard : ((Operation.resumeLock.act peer).perform (v.scene c)).2 =
        ((Chain.resumeLock : Act σ String).perform (v.scene c)).2 := Act.perform_discard ..
    rw [hdiscard]
    exact hresumed
  | runWrite source =>
    have hresume : Act.Leads (· = v.scene c) (Chain.resumeLock : Act σ String)
        (fun _ => Scene.OnCourse (earlier ++ (v.adopted? c).toList.map .taken))
        (fun _ => Scene.OnCourse (earlier ++ (v.adopted? c).toList.map .taken)) := by
      refine Act.leads_of_perform ?_
      rintro s rfl
      exact hresumed
    have hleads := (Chain.steady_onCourse peer
      (earlier ++ (v.adopted? c).toList.map .taken)).leads_runWrite_of_resume source hresume
    exact hleads.perform rfl
  | _ =>
    rw [hoperation] at hop
    cases hop

/-- **Every visit leaves a chain on course.** -/
theorem course_after (peer : Collaborator σ) (v : Visit σ) (h : Course earlier c.stage c.handle) :
    Course (earlier ++ v.events peer c) (v.sceneAfter peer c).chain.stage
      (v.sceneAfter peer c).chain.handle := by
  unfold events
  rw [← List.append_assoc]
  by_cases hforce : v.operation = .forceUnlock
  · have hforced : v.forced = true := by simp [forced, hforce]
    have hadopted : v.adopted? c = none := adopted?_of_not_resumes (by rw [hforce]; rfl)
    have hafter : v.sceneAfter peer c = ((Chain.forceUnlock peer).perform (v.scene c)).2 := by
      rw [sceneAfter, hforce]
      exact Act.perform_discard ..
    rw [hforced, hadopted, hafter, Option.toList_none, List.map_nil, List.append_nil]
    exact forced_onCourse (Chain.forceUnlock_run peer _) h
  · have hforced : v.forced = false := by simp [forced, hforce]
    rw [hforced]
    by_cases hop : v.operation.resumes = true
    · exact resumes_onCourse hop h
    · rw [adopted?_of_not_resumes (by simpa using hop), Option.toList_none, List.map_nil,
        List.append_nil]
      exact ((Chain.steady_onCourse peer earlier).keeps v.operation (fun hresume => absurd hresume hop)
        fun hforced => absurd hforced hforce).perform (onCourse_scene h)

end Visit

namespace Chain

/-- All that happens at some visits, in order. -/
def history (peer : Collaborator σ) (c : Chain) : List (Visit σ) → List LockEvent
  | [] => []
  | v :: visits => v.events peer c ++ (v.sceneAfter peer c).chain.history peer visits

theorem history_onCourse (peer : Collaborator σ) {c : Chain} {earlier : List LockEvent}
    (h : Course earlier c.stage c.handle) (visits : List (Visit σ)) :
    Course (earlier ++ c.history peer visits) (c.afterAll peer visits).stage
      (c.afterAll peer visits).handle := by
  induction visits generalizing c earlier with
  | nil =>
    rw [history, List.append_nil]
    exact h
  | cons v visits ih =>
    rw [history, ← List.append_assoc]
    exact ih (v.course_after peer h)

theorem course_of_isFresh {c : Chain} (h : c.IsFresh) : Course [] c.stage c.handle :=
  ⟨disciplined_nil, .inl ⟨rfl, rfl, by rw [h.stage]; rfl⟩⟩

/-- **The discipline of a whole lifetime.** Whatever is asked of a chain, in whatever order, and
whatever is answered: it takes one lock at most; every update carries the handle of that lock, and is
sent after the lock was taken and before its handle was released or a forced release of it was
tried; and one update at most is answered. -/
theorem history_disciplined (peer : Collaborator σ) {c : Chain} (fresh : c.IsFresh)
    (visits : List (Visit σ)) : Disciplined (c.history peer visits) := by
  have hcourse := history_onCourse peer (course_of_isFresh fresh) visits
  exact hcourse.disciplined

/-- A lock is granted, cannot be recorded and is released; the next one is granted under the same
handle and recorded, and the source is written under it. -/
def grantedAgain : List (Visit Bool) :=
  [⟨.lock, { availability := fun _ => .readOnly }, true, default, 1⟩, ⟨.lock, {}, true, default, 1⟩,
    ⟨.update "x", {}, true, default, 1⟩]

theorem grantedAgain_disciplined :
    (Chain.new (.make .program "zdemo") "S1" {}).IsFresh ∧
      Disciplined ((Chain.new (.make .program "zdemo") "S1" {}).history (.agreeing "H")
        grantedAgain) := by
  have fresh : (Chain.new (.make .program "zdemo") "S1" {}).IsFresh := rfl
  exact ⟨fresh, history_disciplined (.agreeing "H") fresh grantedAgain⟩

/-- The handle of an update was released before, though not since the lock was taken. -/
theorem grantedAgain_updates_released :
    (Chain.new (.make .program "zdemo") "S1" {}).IsFresh ∧
      ¬ ∀ before ev after handle,
        (Chain.new (.make .program "zdemo") "S1" {}).history (.agreeing "H") grantedAgain =
          before ++ ev :: after → ev.update? = some handle →
          ∀ x ∈ before, x.ended? ≠ some handle := by
  refine ⟨rfl, fun h => ?_⟩
  have hnever := h [.called false ⟨.lock, .stateful, .ok "H"⟩,
      .called false ⟨.unlock "H", .stateful, .ok { status := 200 }⟩,
      .called false ⟨.lock, .stateful, .ok "H"⟩, .taken "H"]
    (.called false ⟨.update "H" "x", .stateful, .ok { status := 200 }⟩) [] "H" rfl rfl
  exact hnever (.called false ⟨.unlock "H", .stateful, .ok { status := 200 }⟩) (by simp) rfl

end Chain

end EditLock
