/-
# What a talk saves

A talk over a line changes the session only where it saves it. The saves are counted here, and for
each of them the fault is given that it meets on the disk, so that every way in which saves can go
well or fail is among the disks `Disk.failing`. A line that follows another by a talk has session
and store of the other if nothing was saved, and a stored session that is current if the last save
went well. An answer is never given after a save that failed.

Key definitions: `Line.IsCurrent`, `Disk.failing`, `Line.Follows`, `Talk.Conforms`.
Key theorems: `Line.Follows.trans`, `Talk.Conforms.bind`, `Link.conforms_request`,
`Link.conforms_reset`.
-/
import EditLock.Http.Link
import EditLock.Proofs.Session.Saving

namespace EditLock

variable {ρ α β : Type}

/-- The server beside a count, which it leaves alone. -/
def Server.counted (server : Server ρ) : Server (ρ × ℕ) where
  respond wire s := ((server.respond wire s.1).1, (server.respond wire s.1).2, s.2)
  clock s := server.clock s.1

/-- A disk that counts the writes, each with the fault that it meets. -/
def Disk.failing (faults : ℕ → Option WriteFault) : Disk (ρ × ℕ) where
  write s := (faults s.2, s.1, s.2 + 1)

/-! ### The session and the store -/

namespace Line

/-- How often a save was tried. -/
def saves (line : Line (ρ × ℕ)) : ℕ :=
  line.server.2

/-- The stored session has the cookies and the token of the live one. -/
def IsCurrent (line : Line ρ) : Prop :=
  ∃ stored, line.store.load line.session.id = .ok (some stored) ∧
    stored.cookies = line.session.cookies ∧ stored.jar = line.session.jar ∧
    stored.token = line.session.token

/-- The session can be stored, and one is stored under its identifier. -/
structure IsReady (line : Line ρ) : Prop where
  storable : line.session.IsStorable
  found : ∃ stored, line.store.load line.session.id = .ok (some stored)

theorem IsReady.takes {line : Line ρ} (h : line.IsReady) : line.store.Takes line.session.id := by
  obtain ⟨stored, hload⟩ := h.found
  exact SessionStore.takes_of_load hload

theorem IsCurrent.isReady {line : Line ρ} (h : line.IsCurrent) (hs : line.session.IsStorable) :
    line.IsReady := by
  obtain ⟨stored, hload, -⟩ := h
  exact ⟨hs, stored, hload⟩

/-- Whether a line is current depends on session and store only. -/
theorem IsCurrent.congr {line line' : Line ρ} (h : line.IsCurrent)
    (hsame : line'.session = line.session ∧ line'.store = line.store) : line'.IsCurrent := by
  unfold IsCurrent
  rw [hsame.1, hsame.2]
  exact h

/-- What is left of a line by something that saves the session wherever it changes it. -/
structure Follows (faults : ℕ → Option WriteFault) (line line' : Line (ρ × ℕ)) : Prop where
  ready : line'.IsReady
  id_eq : line'.session.id = line.session.id
  saves_le : line.saves ≤ line'.saves
  unchanged : line'.saves = line.saves → line'.session = line.session ∧ line'.store = line.store
  current : line.saves < line'.saves → faults (line'.saves - 1) = none → line'.IsCurrent

namespace Follows

variable {faults : ℕ → Option WriteFault} {line line' line'' : Line (ρ × ℕ)}

theorem of_unchanged (hline : line.IsReady) (hsession : line'.session = line.session)
    (hstore : line'.store = line.store) (hsaves : line'.saves = line.saves) :
    line.Follows faults line' where
  ready := by
    refine ⟨?_, ?_⟩
    · rw [hsession]
      exact hline.storable
    · rw [hsession, hstore]
      exact hline.found
  id_eq := congrArg Session.id hsession
  saves_le := hsaves.ge
  unchanged _ := ⟨hsession, hstore⟩
  current hlt := absurd hsaves hlt.ne'

theorem refl (hline : line.IsReady) : line.Follows faults line :=
  of_unchanged hline rfl rfl rfl

theorem trans (h : line.Follows faults line') (h' : line'.Follows faults line'') :
    line.Follows faults line'' where
  ready := h'.ready
  id_eq := h'.id_eq.trans h.id_eq
  saves_le := h.saves_le.trans h'.saves_le
  unchanged hsame := by
    have hfirst := h.saves_le
    have hsecond := h'.saves_le
    obtain ⟨hsession, hstore⟩ := h.unchanged (by omega)
    obtain ⟨hsession', hstore'⟩ := h'.unchanged (by omega)
    exact ⟨hsession'.trans hsession, hstore'.trans hstore⟩
  current hlt hgood := by
    rcases h'.saves_le.lt_or_eq with hlt' | hsame
    · exact h'.current hlt' hgood
    · rw [← hsame] at hlt hgood
      exact (h.current hlt hgood).congr (h'.unchanged hsame.symm)

end Follows

end Line

/-! ### Talks -/

/-- The server refused. -/
def Failure.IsRefusal : Failure → Prop
  | rejected _ _ => True
  | _ => False

namespace Talk

variable {faults : ℕ → Option WriteFault} {talk : Talk (ρ × ℕ) α} {f : α → Talk (ρ × ℕ) β}

@[simp] theorem perform_get (line : Line ρ) :
    (get : Talk ρ (Line ρ)).perform line = (.ok line, line) := rfl

@[simp] theorem perform_ofExcept (r : Except Failure α) (line : Line ρ) :
    (ofExcept r : Talk ρ α).perform line = (r, line) := by
  cases r <;> rfl

theorem perform_bind (talk : Talk ρ α) (f : α → Talk ρ β) (line : Line ρ) :
    (talk >>= f).perform line =
      match talk.perform line with
      | (.ok a, line') => (f a).perform line'
      | (.error e, line') => (.error e, line') := by
  unfold perform
  rw [ExceptT.run_bind, StateT.run_bind]
  generalize talk.run.run line = performed
  obtain ⟨r, line'⟩ := performed
  cases r <;> rfl

/-- What was asked was done, or refused by the server. -/
def Answered : Except Failure α → Prop
  | .ok _ => True
  | .error e => e.IsRefusal

/-- The talk saves the session of a line wherever it changes it, and stops at a save that fails. -/
structure ConformsAt (faults : ℕ → Option WriteFault) (talk : Talk (ρ × ℕ) α)
    (line : Line (ρ × ℕ)) : Prop where
  follows : line.Follows faults (talk.perform line).2
  saved : line.saves < (talk.perform line).2.saves → Answered (talk.perform line).1 →
    faults ((talk.perform line).2.saves - 1) = none

/-- The talk saves the session wherever it changes it, and stops at a save that fails. -/
def Conforms (faults : ℕ → Option WriteFault) (talk : Talk (ρ × ℕ) α) : Prop :=
  ∀ line : Line (ρ × ℕ), line.IsReady → ConformsAt faults talk line

theorem ConformsAt.of_unchanged {line : Line (ρ × ℕ)} (hline : line.IsReady)
    (h : (talk.perform line).2 = line) : ConformsAt faults talk line where
  follows := by
    rw [h]
    exact .refl hline
  saved hlt := by
    rw [h] at hlt
    exact absurd hlt (lt_irrefl _)

theorem conforms_pure (a : α) : Conforms faults (pure a : Talk (ρ × ℕ) α) :=
  fun _ hline => .of_unchanged hline rfl

theorem conforms_throw (e : Failure) : Conforms faults (throw e : Talk (ρ × ℕ) α) :=
  fun _ hline => .of_unchanged hline rfl

theorem conforms_get : Conforms faults (get : Talk (ρ × ℕ) (Line (ρ × ℕ))) :=
  fun _ hline => .of_unchanged hline rfl

theorem conforms_ofExcept (r : Except Failure α) :
    Conforms faults (ofExcept r : Talk (ρ × ℕ) α) :=
  fun line hline => .of_unchanged hline (by rw [perform_ofExcept])

/-- What goes by the line itself need only conform there. -/
theorem ConformsAt.get_bind {g : Line (ρ × ℕ) → Talk (ρ × ℕ) α} {line : Line (ρ × ℕ)}
    (h : ConformsAt faults (g line) line) : ConformsAt faults (get >>= g) line := by
  have hperform : (get >>= g).perform line = (g line).perform line := by
    rw [perform_bind, perform_get]
  constructor
  · rw [hperform]
    exact h.follows
  · rw [hperform]
    exact h.saved

/-- One talk after the other: if the second saves nothing, it stands with the saves of the first. -/
theorem Conforms.bind (h : Conforms faults talk) (hf : ∀ a, Conforms faults (f a)) :
    Conforms faults (talk >>= f) := by
  intro line hline
  obtain ⟨hfollows, hsaved⟩ := h line hline
  have hbind := perform_bind talk f line
  generalize talk.perform line = performed at hfollows hsaved hbind
  obtain ⟨r, line'⟩ := performed
  cases r with
  | error e =>
    refine ⟨?_, ?_⟩
    · rw [hbind]
      exact hfollows
    · rw [hbind]
      exact hsaved
  | ok a =>
    obtain ⟨hnext, hlast⟩ := hf a line' hfollows.ready
    refine ⟨?_, ?_⟩
    · rw [hbind]
      exact hfollows.trans hnext
    · rw [hbind]
      intro hlt hanswered
      rcases hnext.saves_le.lt_or_eq with hlt' | hsame
      · exact hlast hlt' hanswered
      · dsimp only at hlt ⊢
        rw [← hsame] at hlt ⊢
        exact hsaved hlt trivial

theorem Conforms.ite {c : Prop} [Decidable c] {talk' : Talk (ρ × ℕ) α} (h : Conforms faults talk)
    (h' : Conforms faults talk') : Conforms faults (if c then talk else talk') := by
  split_ifs
  · exact h
  · exact h'

end Talk

/-! ### What a link does -/

namespace Session

variable {s : Session}

/-- A cookie that is merged leaves identifier and owner alone, and the jar in order. -/
theorem mergeSetCookie_storable (h : s.IsStorable) (header : String) :
    (s.mergeSetCookie header).1.IsStorable ∧ (s.mergeSetCookie header).1.id = s.id := by
  unfold mergeSetCookie
  cases readSetCookie? header.toList with
  | none => exact ⟨h, rfl⟩
  | some cookie =>
    dsimp only
    split_ifs
    · exact ⟨h, rfl⟩
    · exact ⟨⟨NameMap.ordered_insert h.ordered _ _, h.created, h.updated, h.pid_le⟩, rfl⟩

theorem setToken_storable (h : s.IsStorable) (token : Option String) :
    (s.setToken token).1.IsStorable ∧ (s.setToken token).1.id = s.id := by
  unfold setToken
  split_ifs
  · exact ⟨h, rfl⟩
  · exact ⟨⟨h.ordered, h.created, h.updated, h.pid_le⟩, rfl⟩

end Session

namespace Link

open Talk

variable {faults : ℕ → Option WriteFault} {line : Line (ρ × ℕ)} {session : Session}

/-- What merging one cookie keeps, merging all of them keeps. -/
theorem foldl_withCookie_induction {P : Session → Prop} {cookies : List String}
    (merged : ∀ header ∈ cookies, ∀ s, P s → P (s.mergeSetCookie header).1)
    {before : Session × Bool} (start : P before.1) : P (cookies.foldl withCookie before).1 :=
  List.foldlRecOn (motive := fun b => P b.1) cookies withCookie start
    fun b hb header hmem => merged header hmem b.1 hb

/-- What merging a cookie and replacing the token keep, taking over an answer keeps. -/
theorem absorbed_induction {P : Session → Prop} {s : Session} {cookies : List String}
    {token : Option String} (merged : ∀ header ∈ cookies, ∀ s, P s → P (s.mergeSetCookie header).1)
    (replaced : ∀ t ∈ token, ∀ s, P s → P (s.setToken (some t)).1) (start : P s) :
    P (absorbed s cookies token).1 := by
  have hstart : P (s, false).1 := start
  have hmerged := foldl_withCookie_induction merged hstart
  unfold absorbed
  cases token with
  | none => exact hmerged
  | some token =>
    dsimp only
    split_ifs
    · exact hmerged
    · exact replaced token rfl _ hmerged

theorem absorbed_storable {s : Session} (h : s.IsStorable) (cookies : List String)
    (token : Option String) :
    (absorbed s cookies token).1.IsStorable ∧ (absorbed s cookies token).1.id = s.id := by
  refine absorbed_induction (P := fun s' => s'.IsStorable ∧ s'.id = s.id)
    (fun header _ s' hs' => ?_) (fun t _ s' hs' => ?_) ⟨h, rfl⟩
  · obtain ⟨hmerged, hid⟩ := Session.mergeSetCookie_storable hs'.1 header
    exact ⟨hmerged, hid.trans hs'.2⟩
  · obtain ⟨hset, hid⟩ := Session.setToken_storable hs'.1 (some t)
    exact ⟨hset, hid.trans hs'.2⟩

theorem conforms_exchange (server : Server ρ) (wire : WireRequest) :
    Conforms faults (exchange server.counted wire) := by
  intro line hline
  exact ⟨.of_unchanged hline rfl rfl rfl, fun hlt => absurd hlt (lt_irrefl _)⟩

theorem perform_keep {ρ : Type} (disk : Disk ρ) (session : Session) (line : Line ρ) :
    (keep session disk).perform line =
      ((line.store.saveWith (disk.write line.server).1 session).1,
        { session, store := (line.store.saveWith (disk.write line.server).1 session).2,
          server := (disk.write line.server).2 }) := by
  unfold keep
  rw [perform_bind, perform_get]
  exact perform_ofExcept _ _

theorem perform_keep_failing (session : Session) (line : Line (ρ × ℕ)) :
    (keep session (.failing faults)).perform line =
      ((line.store.saveWith (faults line.saves) session).1,
        { session, store := (line.store.saveWith (faults line.saves) session).2,
          server := (line.server.1, line.saves + 1) }) :=
  perform_keep _ session line

/-- A session that is kept is saved: it is what is stored, or the save failed. -/
theorem conformsAt_keep (hline : line.IsReady) (hs : session.IsStorable)
    (hid : session.id = line.session.id) :
    ConformsAt faults (keep session (.failing faults)) line := by
  have htakes : line.store.Takes session.id := hid ▸ hline.takes
  refine ⟨⟨?_, ?_, ?_, ?_, ?_⟩, ?_⟩ <;> rw [perform_keep_failing]
  · refine ⟨hs, ?_⟩
    dsimp only
    cases faults line.saves with
    | none => exact ⟨session, htakes.load_save hs⟩
    | some fault =>
      rw [htakes.load_saveWith_fault, hid]
      exact hline.found
  · exact hid
  · exact Nat.le_succ _
  · intro hsame
    exact absurd hsame (Nat.succ_ne_self _)
  · intro _ hgood
    have hfault : faults line.saves = none := hgood
    refine ⟨session, ?_, rfl, rfl, rfl⟩
    dsimp only
    rw [hfault]
    exact htakes.load_save hs
  · intro _ hanswered
    cases hfault : faults line.saves with
    | none => exact hfault
    | some fault =>
      rw [hfault, htakes.saveWith_fault] at hanswered
      exact hanswered.elim

theorem conforms_absorb {now : Instant} (hnow : now.IsCivil) (cookies : List String)
    (token : Option String) :
    Conforms faults (absorb now cookies token (.failing faults) : Talk (ρ × ℕ) Unit) := by
  intro line hline
  obtain ⟨hs, hid⟩ := absorbed_storable hline.storable cookies token
  refine .get_bind ?_
  dsimp only
  split_ifs
  · exact conformsAt_keep hline ⟨hs.ordered, hs.created, hnow, hs.pid_le⟩ hid
  · exact conforms_pure () line hline

section Requests

variable (link : Link) (server : Server ρ) (mode : SessionMode) {now : Instant}

theorem conforms_send (hnow : now.IsCivil) (r : Request) :
    Conforms faults (link.send server.counted now mode r (.failing faults)) := by
  refine conforms_get.bind fun _ => (conforms_ofExcept _).bind fun wire =>
    (conforms_exchange server wire).bind fun reply => ?_
  cases reply with
  | silence => exact conforms_throw _
  | answer status headers body complete =>
    exact (conforms_throw _).ite ((conforms_absorb hnow _ _).bind fun _ => conforms_pure _)

theorem conforms_fetchToken (hnow : now.IsCivil) :
    Conforms faults (link.fetchToken server.counted now mode (.failing faults)) := by
  refine (conforms_send link server mode hnow fetchRequest).bind fun response => ?_
  exact (conforms_get.bind fun _ => (conforms_throw _).ite (conforms_pure _)).ite (conforms_throw _)

theorem conforms_settled (response : Response) :
    Conforms faults (settled response : Talk (ρ × ℕ) Response) :=
  (conforms_pure _).ite (conforms_throw _)

/-- **A request saves what it changes**, in each of its exchanges, and is answered only if all its
saves went well. -/
theorem conforms_request (hnow : now.IsCivil) (r : Request) :
    Conforms faults (link.request server.counted now mode r (.failing faults)) := by
  have hsend : Conforms faults (link.send server.counted now mode r (.failing faults)) :=
    conforms_send link server mode hnow r
  have hfetch : Conforms faults (link.fetchToken server.counted now mode (.failing faults)) :=
    conforms_fetchToken link server mode hnow
  have hrest : Conforms faults (do
      let response ← link.send server.counted now mode r (.failing faults)
      if asksForToken response && r.method.changes then
        link.fetchToken server.counted now mode (.failing faults)
        settled (← link.send server.counted now mode r (.failing faults))
      else settled response) := by
    refine hsend.bind fun response => ?_
    exact (hfetch.bind fun _ => hsend.bind conforms_settled).ite (conforms_settled response)
  exact conforms_get.bind fun _ => (hfetch.bind fun _ => hrest).ite hrest

end Requests

/-- **A reset saves the session that it leaves.** -/
theorem conforms_reset {now : Instant} (hnow : now.IsCivil) :
    Conforms faults (reset now (.failing faults) : Talk (ρ × ℕ) Unit) := by
  intro line hline
  have hs := hline.storable
  refine .get_bind (conformsAt_keep hline ⟨.nil, hs.created, hnow, hs.pid_le⟩ rfl)

end Link

end EditLock
