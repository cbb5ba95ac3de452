/-
# When the stored session is behind

A connection is meant to store what it takes over from an answer before it gives the answer out.
Whether there is something to store is found by looking at the live session only. So the stored
session falls behind when a save fails, and an answer that changes nothing is then given out over a
store that is still behind: this is the one way in which it happens, and the next save that goes
well makes good what was lost.

Key definitions: `Connection.Passage`, `Connection.passages`, `Connection.Passage.Overlooks`.
Key theorems: `Connection.conforms_pass`, `Connection.conforms_of_mem`,
`Connection.current_throughout_iff`.
-/
import EditLock.Http.Connection
import EditLock.Proofs.Answers
import EditLock.Proofs.Http.Saves

namespace EditLock.Connection

variable {ρ : Type}

/-- The time of an act can be written down. -/
def Act.IsTimely : Act → Prop
  | request now _ => now.IsCivil
  | reset now => now.IsCivil
  | route _ => True

/-- One act of a sequence: what was asked, what was there before, what came of it, and what is there
after it. -/
structure Passage (ρ : Type) where
  act : Act
  before : Connection ρ
  result : Except Failure (Option Response)
  after : Connection ρ

namespace Passage

/-- A request was done or refused by the server, or a reset was done. -/
def Answered (p : Passage ρ) : Prop :=
  match p.act with
  | .request _ _ => Talk.Answered p.result
  | .reset _ => ∃ response, p.result = .ok response
  | .route _ => False

/-- No save was tried. -/
def IsQuiet (p : Passage (ρ × ℕ)) : Prop :=
  p.after.line.saves = p.before.line.saves

/-- The act is answered and nothing is saved, though the stored session was behind. -/
def Overlooks (p : Passage (ρ × ℕ)) : Prop :=
  p.Answered ∧ p.IsQuiet ∧ ¬ p.before.line.IsCurrent

/-- The act saves what it changes, and is answered only if its last save went well. -/
structure Conforms (faults : ℕ → Option WriteFault) (p : Passage (ρ × ℕ)) : Prop where
  follows : p.before.line.Follows faults p.after.line
  saved : p.before.line.saves < p.after.line.saves → p.Answered →
    faults (p.after.line.saves - 1) = none

end Passage

/-- Does what is asked, and tells how it went. -/
def pass (link : Link) (server : Server ρ) (disk : Disk ρ) (act : Act) (c : Connection ρ) :
    Passage ρ × Connection ρ :=
  let done := perform link server disk act c
  (⟨act, c, done.1, done.2⟩, done.2)

/-- How a sequence of acts goes if the saves meet the given faults. -/
def passages (link : Link) (server : Server ρ) (faults : ℕ → Option WriteFault) (acts : List Act)
    (c : Connection (ρ × ℕ)) : List (Passage (ρ × ℕ)) :=
  answers (pass link server.counted (.failing faults)) acts c

variable {link : Link} {server : Server ρ} {faults : ℕ → Option WriteFault}
  {c : Connection (ρ × ℕ)} {act : Act} {acts : List Act} {p : Passage (ρ × ℕ)}

/-! ### One act -/

theorem conforms_pass (hc : c.line.IsReady) (hact : act.IsTimely) :
    (pass link server.counted (.failing faults) act c).1.Conforms faults := by
  cases act with
  | request now r =>
    obtain ⟨hfollows, hsaved⟩ : Talk.ConformsAt faults _ c.line :=
      Link.conforms_request link server c.mode hact r c.line hc
    unfold pass perform
    dsimp only
    generalize (link.request server.counted now c.mode r (.failing faults)).perform c.line = done
      at *
    obtain ⟨result, line⟩ := done
    refine ⟨hfollows, fun hlt hanswered => hsaved hlt ?_⟩
    cases result <;> exact hanswered
  | reset now =>
    obtain ⟨hfollows, hsaved⟩ : Talk.ConformsAt faults _ c.line :=
      Link.conforms_reset hact c.line hc
    unfold pass perform
    dsimp only
    generalize (Link.reset now (.failing faults)).perform c.line = done at *
    obtain ⟨result, line⟩ := done
    refine ⟨hfollows, fun hlt hanswered => hsaved hlt ?_⟩
    obtain ⟨response, hdone⟩ := hanswered
    cases result with
    | ok _ => trivial
    | error e => cases hdone
  | route mode => exact ⟨.refl hc, fun hlt => absurd hlt (lt_irrefl _)⟩

/-- After an answered act the stored session is current unless the act overlooked that it was
not. -/
theorem Passage.Conforms.current_iff (h : p.Conforms faults) (hanswered : p.Answered) :
    p.after.line.IsCurrent ↔ ¬ p.Overlooks := by
  rcases h.follows.saves_le.lt_or_eq with hlt | hsame
  · refine iff_of_true (h.follows.current hlt (h.saved hlt hanswered)) ?_
    rintro ⟨-, hquiet, -⟩
    exact absurd hquiet hlt.ne'
  · have hquiet : p.IsQuiet := hsame.symm
    have hsame := h.follows.unchanged hquiet
    refine ⟨fun hafter hover => hover.2.2 (hafter.congr ?_), fun hnot => ?_⟩
    · exact ⟨hsame.1.symm, hsame.2.symm⟩
    · by_contra hbehind
      exact hnot ⟨hanswered, hquiet, fun hbefore => hbehind (hbefore.congr hsame)⟩

/-! ### A sequence of acts -/

theorem conforms_of_mem (hc : c.line.IsReady) (timely : ∀ act ∈ acts, act.IsTimely)
    (hp : p ∈ passages link server faults acts c) :
    c.line.Follows faults p.before.line ∧ p.Conforms faults := by
  induction acts generalizing c with
  | nil => cases hp
  | cons act acts ih =>
    have hfirst : (pass link server.counted (.failing faults) act c).1.Conforms faults :=
      conforms_pass hc (timely act List.mem_cons_self)
    rcases List.mem_cons.1 hp with rfl | hrest
    · exact ⟨.refl hc, hfirst⟩
    · obtain ⟨hfollows, hconforms⟩ := ih hfirst.follows.ready
        (fun act' hact' => timely act' (List.mem_cons_of_mem act hact')) hrest
      exact ⟨hfirst.follows.trans hfollows, hconforms⟩

/-- **When the stored session is current.** Of a connection whose session is stored as it is, and
whatever is then asked of it, answered by the server and refused by the disk: the stored session is
current after every answered act just if no act overlooked that it was behind. All along a session
is stored under the identifier, and it is behind only if the last save that was tried has failed. -/
theorem current_throughout_iff (link : Link) (server : Server ρ) (faults : ℕ → Option WriteFault)
    (acts : List Act) (c : Connection (ρ × ℕ)) (timely : ∀ act ∈ acts, act.IsTimely)
    (storable : c.line.session.IsStorable) (start : c.line.IsCurrent) :
    ((∀ p ∈ passages link server faults acts c, p.Answered → p.after.line.IsCurrent) ↔
        ∀ p ∈ passages link server faults acts c, ¬ p.Overlooks) ∧
      ∀ p ∈ passages link server faults acts c,
        p.after.line.session.id = c.line.session.id ∧
          (∃ found, p.after.line.store.load c.line.session.id = .ok (some found)) ∧
          ((c.line.saves < p.after.line.saves → faults (p.after.line.saves - 1) = none) →
            p.after.line.IsCurrent) := by
  have hready := start.isReady storable
  refine ⟨⟨fun hcurrent p hp hover => ?_, fun hnone p hp hanswered => ?_⟩, fun p hp => ?_⟩
  · obtain ⟨-, hconforms⟩ := conforms_of_mem hready timely hp
    exact (hconforms.current_iff hover.1).1 (hcurrent p hp hover.1) hover
  · obtain ⟨-, hconforms⟩ := conforms_of_mem hready timely hp
    exact (hconforms.current_iff hanswered).2 (hnone p hp)
  · obtain ⟨hbefore, hconforms⟩ := conforms_of_mem hready timely hp
    have hfollows := hbefore.trans hconforms.follows
    refine ⟨hfollows.id_eq, hfollows.id_eq ▸ hfollows.ready.found, fun hgood => ?_⟩
    rcases hfollows.saves_le.lt_or_eq with hlt | hsame
    · exact hfollows.current hlt (hgood hlt)
    · exact start.congr (hfollows.unchanged hsame.symm)

/-! ### A save that is lost -/

/-- A server that gives the replies of a list, one after the other. -/
def scripted : Server (List WireReply) where
  respond _ replies :=
    match replies with
    | [] => (.silence, [])
    | reply :: replies => (reply, replies)

/-- A session with one cookie. -/
def oneCookie : Session :=
  { id := "s1", cookies := "a=1", jar := [("a", "1")], createdAt := ⟨1700000000, 0⟩
    updatedAt := ⟨1700000000, 0⟩, pid := 7 }

/-- The session is stored; the server's first answer sets another cookie, the second one nothing. -/
def stored : Connection (List WireReply × ℕ) where
  line :=
    { session := oneCookie
      store := (SessionStore.save oneCookie ⟨"sessions", .missing⟩).2
      server :=
        ([.answer 200 [("Set-Cookie", "b=2; path=/")] [] true, .answer 200 [] [] true], 0) }

/-- A page that is asked for. -/
def page : Act :=
  .request ⟨1700000060, 0⟩ { method := .get, path := "/page" }

def host : Link :=
  { baseUrl := "http://host" }

/-- Only the first write fails. -/
def firstLost (n : ℕ) : Option WriteFault :=
  if n = 0 then some .flush else none

/-- The page is asked for once more after the first write failed. -/
def again : Passage (List WireReply × ℕ) :=
  (pass host scripted.counted (.failing firstLost) page
    (pass host scripted.counted (.failing firstLost) page stored).2).1

theorem storable_oneCookie : oneCookie.IsStorable :=
  ⟨List.pairwise_singleton _ _, ⟨by decide, by decide, by decide⟩,
    ⟨by decide, by decide, by decide⟩, by decide⟩

theorem load_stored : stored.line.store.load oneCookie.id = .ok (some oneCookie) := by
  have takes : SessionStore.Takes ⟨"sessions", .missing⟩ oneCookie.id :=
    ⟨SessionStore.isValidId_iff.1 (by decide +kernel), nofun, nofun⟩
  exact takes.load_save storable_oneCookie

/-- The second request is answered while the store still has the session without the cookie. -/
theorem again_overlooks : again.Overlooks := by
  have hdone : again.result.toBool = true := by decide +kernel
  have hquiet : again.after.line.saves = again.before.line.saves := by decide +kernel
  have hstore : again.before.line.store = stored.line.store := by decide +kernel
  have hid : again.before.line.session.id = oneCookie.id := by decide +kernel
  have hcookies : again.before.line.session.cookies ≠ oneCookie.cookies := by decide +kernel
  have hanswered : again.Answered := by
    show Talk.Answered again.result
    cases hresult : again.result with
    | ok response => trivial
    | error e =>
      rw [hresult] at hdone
      cases hdone
  refine ⟨hanswered, hquiet, ?_⟩
  rintro ⟨found, hfound, hsame, -⟩
  rw [hstore, hid, load_stored] at hfound
  obtain rfl := Option.some.inj (Except.ok.inj hfound)
  exact hcookies hsame.symm

theorem lost_save_overlooked :
    (∀ act ∈ [page, page], act.IsTimely) ∧ stored.line.session.IsStorable ∧
      stored.line.IsCurrent ∧
      ¬ ∀ p ∈ passages host scripted firstLost [page, page] stored,
        p.Answered → p.after.line.IsCurrent := by
  have timely : ∀ act ∈ [page, page], act.IsTimely := by
    intro act hact
    simp only [List.mem_cons, List.not_mem_nil, or_false, or_self] at hact
    subst hact
    exact ⟨by decide, by decide, by decide⟩
  have start : stored.line.IsCurrent := ⟨oneCookie, load_stored, rfl, rfl, rfl⟩
  refine ⟨timely, storable_oneCookie, start, fun hcurrent => ?_⟩
  have hnone := (current_throughout_iff host scripted firstLost [page, page] stored timely
    storable_oneCookie start).1.1 hcurrent
  exact hnone again (List.mem_cons_of_mem _ List.mem_cons_self) again_overlooks

end EditLock.Connection
