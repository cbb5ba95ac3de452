/-
# Handles that are granted

The answer to a request for a lock holds the handle in the leftmost handle element that is filled:
what stands between its tags is the handle, without the blanks around it. If there are just blanks,
then no handle is read, even where another element follows. So a handle that is read is never empty
and has no blanks around it, and neither has one with which a transport grants a lock.

Key definitions: `IsTrimmed`, `HandleAt`, `FirstHandle`, `Transport.AnswersLock`,
`Transport.ReadsHandles`.
Key theorems: `trimmed_eq_iff`, `lockHandle?_eq_some_iff`, `lockHandle?_written`,
`Transport.perform_lock_answered_iff`, `Transport.handles_read`.
-/
import EditLock.Proofs.Object.Spelling
import EditLock.Proofs.Text.Element
import EditLock.Remote.Exchange

namespace EditLock

open Text

/-! ### Trimmed texts -/

/-- A text neither starts nor ends with a blank. -/
structure IsTrimmed (s : String) : Prop where
  head : ∀ c ∈ s.toList.head?, isBlank c = false
  last : ∀ c ∈ s.toList.getLast?, isBlank c = false

variable {text core : String}

theorem padded_trimmed (text : String) : Padded (trimmed text) text := by
  refine ⟨text.toList.takeWhile isBlank, (trimStart text.toList).rtakeWhile isBlank,
    fun c hc => List.mem_takeWhile_imp hc, fun c hc => List.mem_rtakeWhile_imp hc, ?_⟩
  rw [trimmed, String.toList_ofList, trim_eq_rdropWhile, List.append_assoc, trimStart,
    List.rdropWhile_append_rtakeWhile, List.takeWhile_append_dropWhile]

/-- **What is left of a trimmed text** is what stands between the blanks at its ends. -/
theorem trimmed_eq_iff : trimmed text = core ↔ Padded core text ∧ IsTrimmed core := by
  constructor
  · rintro rfl
    refine ⟨padded_trimmed text, ?_, ?_⟩
    · rw [trimmed, String.toList_ofList]
      exact isBlank_head_trim _
    · rw [trimmed, String.toList_ofList]
      exact isBlank_getLast_trim _
  · rintro ⟨⟨before, after, hbefore, hafter, htext⟩, hhead, hlast⟩
    rw [trimmed, htext, trim_append_blanks hafter, trim_blanks_append hbefore,
      trim_eq_self hhead hlast, String.ofList_toList]

theorem trimmed_eq_empty_iff : trimmed text = "" ↔ IsBlankName text := by
  rw [trimmed, ← String.toList_inj, String.toList_ofList]
  exact trim_eq_nil_iff

/-! ### Handle elements -/

/-- In a body, a handle element with something in it stands between what is before it and what is
after it. -/
structure HandleAt (body before text after : String) : Prop where
  written : body = before ++ "<LOCK_HANDLE>" ++ text ++ "</LOCK_HANDLE>" ++ after
  unmarked : '<' ∉ text.toList
  nonempty : text ≠ ""

/-- The handle element stands in the leftmost of all places. -/
structure FirstHandle (body before text after : String) : Prop
    extends HandleAt body before text after where
  leftmost : ∀ before' text' after', HandleAt body before' text' after' →
    before.length ≤ before'.length

/-- The name of a handle element. -/
def handleName : List Char := "LOCK_HANDLE".toList

variable {body before after handle : String}

theorem handleAt_iff : HandleAt body before text after ↔
    HasElement handleName true body.toList before.toList text.toList after.toList := by
  have hparts : (before ++ "<LOCK_HANDLE>" ++ text ++ "</LOCK_HANDLE>" ++ after).toList =
      before.toList ++ (element handleName text.toList ++ after.toList) := by
    have hopen : "<LOCK_HANDLE>".toList = openingTag handleName := rfl
    have hclose : "</LOCK_HANDLE>".toList = closingTag handleName := rfl
    simp only [String.toList_append, List.append_assoc, element, hopen, hclose]
  have hempty : text ≠ "" ↔ (true = true → text.toList ≠ []) := by simp
  constructor
  · rintro ⟨hwritten, hunmarked, hnonempty⟩
    exact ⟨(congrArg String.toList hwritten).trans hparts, hunmarked, hempty.1 hnonempty⟩
  · rintro ⟨hwritten, hunmarked, hnonempty⟩
    exact ⟨String.toList_inj.1 (hwritten.trans hparts.symm), hunmarked, hempty.2 hnonempty⟩

theorem firstHandle_iff : FirstHandle body before text after ↔
    IsFirstElement handleName true body.toList before.toList text.toList after.toList := by
  constructor
  · rintro ⟨hat, hleftmost⟩
    refine ⟨handleAt_iff.1 hat, fun cs ds es h => ?_⟩
    have hother : HandleAt body (.ofList cs) (.ofList ds) (.ofList es) := by
      simpa only [handleAt_iff, String.toList_ofList] using h
    simpa only [String.length_toList, String.length_ofList] using hleftmost _ _ _ hother
  · rintro ⟨hat, hleftmost⟩
    exact ⟨handleAt_iff.2 hat, fun _ _ _ h => hleftmost _ _ _ (handleAt_iff.1 h)⟩

/-- **A handle is read just from the leftmost filled element**, unless there are only blanks. -/
theorem lockHandle?_eq_some_iff : lockHandle? body = some handle ↔
    ∃ before text after, FirstHandle body before text after ∧ trimmed text = handle ∧
      handle ≠ "" := by
  have hread : lockHandle? body = ((elementText? handleName true body.toList).map fun t =>
      String.ofList (trim t)).filter fun handle => !handle.isEmpty := rfl
  rw [hread]
  simp only [Option.filter_eq_some_iff, Option.map_eq_some_iff, elementText?_eq_some_iff]
  constructor
  · rintro ⟨⟨cs, ⟨ds, es, hfirst⟩, hhandle⟩, hnonempty⟩
    refine ⟨.ofList ds, .ofList cs, .ofList es, ?_, ?_, ?_⟩
    · simpa only [firstHandle_iff, String.toList_ofList] using hfirst
    · rw [trimmed, String.toList_ofList]
      exact hhandle
    · simpa using hnonempty
  · rintro ⟨before, text, after, hfirst, rfl, hnonempty⟩
    exact ⟨⟨text.toList, ⟨before.toList, after.toList, firstHandle_iff.1 hfirst⟩, rfl⟩,
      by simpa using hnonempty⟩

/-- A handle that is read is not empty and has no blanks around it. -/
theorem isTrimmed_of_lockHandle? (h : lockHandle? body = some handle) :
    handle ≠ "" ∧ IsTrimmed handle := by
  obtain ⟨before, text, after, -, htrimmed, hnonempty⟩ := lockHandle?_eq_some_iff.1 h
  exact ⟨hnonempty, (trimmed_eq_iff.1 htrimmed).2⟩

/-- In one body there is one text in the leftmost place. -/
theorem FirstHandle.text_eq {before' text' after' : String}
    (h : FirstHandle body before text after) (h' : FirstHandle body before' text' after') :
    text = text' :=
  String.toList_inj.1 ((firstHandle_iff.1 h).text_eq (firstHandle_iff.1 h'))

/-- Where there are only blanks in the leftmost place, no handle is read. -/
theorem FirstHandle.lockHandle?_eq_none (h : FirstHandle body before text after)
    (hblank : IsBlankName text) : lockHandle? body = none := by
  rw [Option.eq_none_iff_forall_ne_some]
  intro handle hread
  obtain ⟨before', text', after', h', htrimmed, hnonempty⟩ := lockHandle?_eq_some_iff.1 hread
  rw [← h.text_eq h', trimmed_eq_empty_iff.2 hblank] at htrimmed
  exact hnonempty htrimmed.symm

/-- **A handle is read where it was put**, if no opening tag stands before it. -/
theorem lockHandle?_written {p h q : String} (hp : ¬ "<LOCK_HANDLE>".toList <:+: p.toList)
    (hunmarked : '<' ∉ h.toList) (hfilled : ¬ IsBlankName h) :
    lockHandle? (p ++ "<LOCK_HANDLE>" ++ h ++ "</LOCK_HANDLE>" ++ q) = some (trimmed h) := by
  have hnonempty : h ≠ "" := by
    rintro rfl
    exact hfilled (by simp [IsBlankName])
  have hat : HandleAt (p ++ "<LOCK_HANDLE>" ++ h ++ "</LOCK_HANDLE>" ++ q) p h q :=
    ⟨rfl, hunmarked, hnonempty⟩
  have hname : '<' ∉ handleName := by decide
  have hfirst := firstHandle_iff.2 ((handleAt_iff.1 hat).isFirst hname hp)
  exact lockHandle?_eq_some_iff.2 ⟨p, h, q, hfirst, rfl, mt trimmed_eq_empty_iff.1 hfilled⟩

/-! ### Locks over a transport -/

theorem Call.granted_eq_ok_iff {response : Response} :
    Call.granted response = .ok handle ↔ lockHandle? response.data = some handle := by
  unfold granted
  cases lockHandle? response.data <;> simp

namespace Transport

variable {τ : Type} {t : Transport τ} {o : ObjectRef} {mode : SessionMode} {limit : Option Nat}
  {s : τ}

theorem replyOf_eq_answered_iff {α : Type} {result : Except Failure α} {a : α} :
    replyOf result = .answered a ↔ result = .ok a := by
  cases result <;> simp [replyOf]

/-- The request for the lock of an object is answered by a response in time. -/
def AnswersLock (t : Transport τ) (o : ObjectRef) (mode : SessionMode) (limit : Option Nat) (s : τ)
    (response : Response) : Prop :=
  ∃ r delay next, Call.lock.request o = .ok r ∧ t.send r mode s = ((.ok response, delay), next) ∧
    isPast limit delay = false

/-- **A lock is granted just with the handle that is read from the response.** -/
theorem perform_lock_answered_iff :
    (t.perform .lock o mode limit s).1.reply = .answered handle ↔
      ∃ response, t.AnswersLock o mode limit s response ∧
        lockHandle? response.data = some handle := by
  unfold AnswersLock
  cases hrequest : Call.lock.request o with
  | error e => simp [perform, hrequest]
  | ok r =>
    rcases hsend : t.send r mode s with ⟨⟨result, delay⟩, next⟩
    by_cases hlate : isPast limit delay = true
    · simp [perform, hrequest, once, hsend, hlate]
    have hreply : (t.perform .lock o mode limit s).1.reply =
        replyOf (result.bind Call.granted) := by
      simp [perform, hrequest, once, hsend, hlate, Call.conclude]
    rw [hreply, replyOf_eq_answered_iff]
    cases result with
    | error e => simp [hsend, Except.bind]
    | ok response =>
      have hread : (Except.ok response).bind Call.granted = .ok handle ↔
          lockHandle? response.data = some handle := Call.granted_eq_ok_iff
      simp [hsend, hread, hlate]

/-- How handles are read, and what handles a transport brings. -/
structure ReadsHandles (t : Transport τ) : Prop where
  /-- A handle is what the blanks leave of the text in the leftmost filled element. -/
  found : ∀ body handle, lockHandle? body = some handle ↔ ∃ before text after,
    FirstHandle body before text after ∧ Padded handle text ∧ IsTrimmed handle ∧ handle ≠ ""
  /-- Elements further right are not looked at. -/
  blank : ∀ body before text after, FirstHandle body before text after → IsBlankName text →
    lockHandle? body = none
  missing : ∀ body, (∀ before text after, ¬ HandleAt body before text after) →
    lockHandle? body = none
  /-- What follows a handle, and parts of tags before it, do not matter. -/
  written : ∀ p h q : String, ¬ "<LOCK_HANDLE>".toList <:+: p.toList → '<' ∉ h.toList →
    (∃ c ∈ h.toList, isBlank c = false) →
    lockHandle? (p ++ "<LOCK_HANDLE>" ++ h ++ "</LOCK_HANDLE>" ++ q) = some (trimmed h)
  /-- A lock is granted just with the handle of the response. -/
  granted : ∀ o mode limit s handle,
    (t.perform .lock o mode limit s).1.reply = .answered handle ↔
      ∃ response, t.AnswersLock o mode limit s response ∧ lockHandle? response.data = some handle
  granted_trimmed : ∀ o mode limit s handle,
    (t.perform .lock o mode limit s).1.reply = .answered handle → handle ≠ "" ∧ IsTrimmed handle

/-- **Handles are read from the right element**: the leftmost one that is filled, whatever else the
body holds; and a lock is granted over any transport with such a handle only. -/
theorem handles_read (t : Transport τ) : t.ReadsHandles where
  found body handle := by
    rw [lockHandle?_eq_some_iff]
    simp only [trimmed_eq_iff, and_assoc]
  blank _ _ _ _ hfirst hblank := hfirst.lockHandle?_eq_none hblank
  missing body habsent := by
    rw [Option.eq_none_iff_forall_ne_some]
    intro handle hread
    obtain ⟨before, text, after, hfirst, -⟩ := lockHandle?_eq_some_iff.1 hread
    exact habsent before text after hfirst.toHandleAt
  written p h q hp hunmarked hfilled := by
    obtain ⟨c, hc, hfull⟩ := hfilled
    refine lockHandle?_written hp hunmarked fun hblank => ?_
    rw [hblank c hc] at hfull
    cases hfull
  granted _ _ _ _ _ := perform_lock_answered_iff
  granted_trimmed o mode limit s handle hgranted := by
    obtain ⟨response, -, hread⟩ := perform_lock_answered_iff.1 hgranted
    exact isTrimmed_of_lockHandle? hread

/-- A body with a part of a tag, an empty element and one that is not closed before the handle, and
another handle behind it. -/
def crowdedBody : String :=
  "<LOCK_<LOCK_HANDLE></LOCK_HANDLE><LOCK_HANDLE>LOST<LOCK_HANDLE>\u00a0AB 12\n</LOCK_HANDLE>" ++
    "<LOCK_HANDLE>CD34</LOCK_HANDLE>"

/-- A transport on which every request is answered by one body. -/
def answering (body : String) : Transport Unit where
  send _ _ s := ((.ok { status := 200, data := body }, 0), s)

theorem crowded_handle_read :
    (∃ before text after, FirstHandle crowdedBody before text after ∧ Padded "AB 12" text ∧
        IsTrimmed "AB 12" ∧ "AB 12" ≠ "") ∧
      lockHandle? "<LOCK_HANDLE> \n</LOCK_HANDLE><LOCK_HANDLE>CD34</LOCK_HANDLE>" = none ∧
      lockHandle? "<LOCK_HANDLE>AB12<LOCK_HANDLE></LOCK_HANDLE>" = none ∧
      lockHandle? ("<LOCK_HANDLE" ++ "<LOCK_HANDLE>" ++ "\tAB 12" ++ "</LOCK_HANDLE>" ++
        crowdedBody) = some (trimmed "\tAB 12") ∧
      ((answering crowdedBody).perform .lock { kind := .objectClass, name := "ZCL_TEST" }
        .stateful none ()).1.reply = .answered "AB 12" := by
  have hreads := (answering crowdedBody).handles_read
  have hcrowded : lockHandle? crowdedBody = some "AB 12" := by decide +kernel
  refine ⟨(hreads.found _ _).1 hcrowded, ?_, hreads.missing _ ?_, ?_, ?_⟩
  · have hfirst : FirstHandle "<LOCK_HANDLE> \n</LOCK_HANDLE><LOCK_HANDLE>CD34</LOCK_HANDLE>"
        "" " \n" "<LOCK_HANDLE>CD34</LOCK_HANDLE>" :=
      ⟨⟨by decide +kernel, by decide, by decide⟩, fun _ _ _ _ => Nat.zero_le _⟩
    exact hreads.blank _ _ _ _ hfirst (trimmed_eq_empty_iff.1 (by decide +kernel))
  · intro before text after h
    exact elementText?_eq_none_iff.1 (by decide +kernel) _ _ _ (handleAt_iff.1 h)
  · exact hreads.written _ _ _ (by decide +kernel) (by decide) ⟨'A', by decide, by decide⟩
  · exact (hreads.granted _ _ _ _ _).2 ⟨_, ⟨_, 0, (), rfl, rfl, rfl⟩, hcrowded⟩

end Transport

end EditLock
