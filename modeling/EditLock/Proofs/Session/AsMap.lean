/-
# The session store is a map

The files of the store are the sessions of a map, written out: each session under the name of its
identifier, and nothing else (`SessionStore.Keeps`). Every request keeps that up and is answered as
the map answers it, so the store and the map cannot be told apart by any sequence of requests.

Key definitions: `SessionStore.Keeps`, `SessionRequest.IsStorable`.
Key theorems: `SessionStore.exists_list`, `SessionStore.Keeps.list`, `SessionStore.Keeps.answer`,
`SessionStore.answers_as_sessionMap`.
-/
import Mathlib.Data.List.Pairwise
import EditLock.Proofs.Answers
import EditLock.Proofs.Files.Directory
import EditLock.Proofs.Session.SessionMap

namespace EditLock

namespace SessionStore

/-! ### What is listed -/

theorem pairwise_mergeSort_le (names : List String) :
    (names.mergeSort fun a b => a ≤ b).Pairwise (· ≤ ·) := by
  refine (List.pairwise_mergeSort (fun a b c hab hbc => ?_) (fun a b => ?_) names).imp
    fun hab => of_decide_eq_true hab
  · exact decide_eq_true (le_trans (of_decide_eq_true hab) (of_decide_eq_true hbc))
  · rw [Bool.or_eq_true, decide_eq_true_eq, decide_eq_true_eq]
    exact le_total a b

/-- **Which identifiers are listed**: those whose files are in the directory, in strict order. -/
theorem exists_list {s : SessionStore} (hdir : s.dir ≠ .obstructed)
    (hdistinct : Directory.Distinct s.dir.entries) :
    ∃ names, s.list = .ok names ∧ names.Pairwise (· < ·) ∧
      ∀ name, name ∈ names ↔ NamesSession name ∧ ∃ e, (fileName name, e) ∈ s.dir.entries := by
  obtain ⟨path, dir⟩ := s
  cases dir with
  | missing => exact ⟨[], rfl, .nil, by simp [Directory.entries]⟩
  | obstructed => exact absurd rfl hdir
  | present entries =>
    have hsame : ((entries.map Prod.fst).mergeSort fun a b => a ≤ b).Perm (entries.map Prod.fst) :=
      List.mergeSort_perm _ _
    have hfound := (hsame.filterMap idOfFile?)
    have hnodup :
        (((entries.map Prod.fst).mergeSort fun a b => a ≤ b).filterMap idOfFile?).Nodup := by
      refine (hsame.symm.nodup hdistinct).filterMap fun file file' id hid hid' => ?_
      rw [(idOfFile?_eq_some_iff.1 hid).2, (idOfFile?_eq_some_iff.1 hid').2]
    have hlisted := List.mergeSort_perm
      (((entries.map Prod.fst).mergeSort fun a b => a ≤ b).filterMap idOfFile?) fun a b => a ≤ b
    refine ⟨_, rfl, ?_, fun name => ?_⟩
    · have hsorted := pairwise_mergeSort_le
        (((entries.map Prod.fst).mergeSort fun a b => a ≤ b).filterMap idOfFile?)
      refine (hsorted.and (hlisted.symm.nodup hnodup)).imp fun {a b} hab => ?_
      exact lt_of_le_of_ne hab.1 hab.2
    · rw [hlisted.mem_iff, hfound.mem_iff, List.mem_filterMap]
      constructor
      · rintro ⟨file, hfile, hid⟩
        obtain ⟨hname, rfl⟩ := idOfFile?_eq_some_iff.1 hid
        obtain ⟨f, hf, hfst⟩ := List.mem_map.1 hfile
        refine ⟨hname, f.2, ?_⟩
        rw [← hfst]
        exact hf
      · rintro ⟨hname, e, he⟩
        exact ⟨fileName name, List.mem_map_of_mem he, idOfFile?_eq_some_iff.2 ⟨hname, rfl⟩⟩

/-! ### The files of a map -/

/-- The store with other entries in its directory. -/
def withEntries (s : SessionStore) (entries : List (String × Entry)) : SessionStore :=
  { s with dir := .present entries }

/-- The store keeps the sessions of a map. -/
structure Keeps (s : SessionStore) (m : SessionMap) : Prop where
  unobstructed : s.dir ≠ .obstructed
  distinct : Directory.Distinct s.dir.entries
  /-- Each file is that of a session. -/
  own : ∀ f ∈ s.dir.entries, ∃ name, NamesSession name ∧ f.1 = fileName name
  found : ∀ name, NamesSession name →
    s.dir.entries.lookup (fileName name) = m[name]?.map fun session => .text session.write
  named : m.Named
  storable : ∀ (name : String) (session : Session), m[name]? = some session → session.IsStorable

theorem keeps_empty (path : String) {dir : Directory} (start : dir = .missing ∨ dir = .present []) :
    Keeps ⟨path, dir⟩ ∅ := by
  have hentries : dir.entries = [] := by
    rcases start with rfl | rfl <;> rfl
  refine ⟨?_, ?_, ?_, ?_, SessionMap.named_empty, ?_⟩
  · rcases start with rfl | rfl <;> exact nofun
  · rw [hentries]
    exact List.nodup_nil
  · rw [hentries]
    exact nofun
  · intro name _
    rw [hentries]
    simp
  · intro name session h
    simp at h

/-! ### What is no identifier is refused -/

section Refused

variable {name : String}

theorem isValidId_of_not (h : ¬ NamesSession name) : isValidId name = false :=
  Bool.eq_false_iff.2 fun hvalid => h (isValidId_iff.1 hvalid)

theorem readRecord_of_not (h : ¬ NamesSession name) (s : SessionStore) :
    s.readRecord name = .error (invalidId name) := by
  rw [readRecord, isValidId_of_not h]
  rfl

theorem writeRecord_of_not {session : Session} (h : ¬ NamesSession session.id) (overwrite : Bool)
    (s : SessionStore) :
    writeRecord session overwrite s = (.error (invalidId session.id), s) := by
  rw [writeRecord, isValidId_of_not h]
  rfl

theorem create_of_not (h : ¬ NamesSession name) (overwrite : Bool) (now : Instant) (pid : Nat)
    (s : SessionStore) : s.create name overwrite now pid = (.error (invalidId name), s) := by
  have hid : ¬ NamesSession (Session.new name now pid).id := h
  rw [create, writeRecord_of_not hid overwrite s]
  rfl

theorem load_of_not (h : ¬ NamesSession name) (s : SessionStore) :
    s.load name = .error (invalidId name) := by
  rw [load, readRecord_of_not h s]

theorem openOrCreate_of_not (h : ¬ NamesSession name) (now : Instant) (pid : Nat)
    (s : SessionStore) : s.openOrCreate name now pid = (.error (invalidId name), s) := by
  rw [openOrCreate, load_of_not h s]

theorem metadata_of_not (h : ¬ NamesSession name) (now : Instant) (s : SessionStore) :
    s.metadata name now = .error (invalidId name) := by
  rw [metadata, readRecord_of_not h s]

theorem delete_of_not (h : ¬ NamesSession name) (s : SessionStore) :
    s.delete name = (.error (invalidId name), s) := by
  rw [delete, isValidId_of_not h]
  rfl

end Refused

/-! ### Requests one by one -/

namespace Keeps

variable {s : SessionStore} {m : SessionMap} {name : String} {session : Session}

/-- Making sure that the directory is there changes no session. -/
theorem withEntries (h : s.Keeps m) : (s.withEntries s.dir.entries).Keeps m :=
  ⟨nofun, h.distinct, h.own, h.found, h.named, h.storable⟩

/-- Writing a session's file stores the session. -/
theorem put (h : s.Keeps m) (hname : NamesSession session.id) (hs : session.IsStorable) :
    (s.withEntries (Directory.put (fileName session.id) (.text session.write) s.dir.entries)).Keeps
      (m.insert session.id session) := by
  refine ⟨nofun, h.distinct.put _ _, fun f hf => ?_, fun name hn => ?_, h.named.insert hname,
    fun name found hfound => ?_⟩
  · rcases Directory.mem_put hf with rfl | hold
    · exact ⟨session.id, hname, rfl⟩
    · exact h.own f hold
  · rw [Std.ExtTreeMap.getElem?_insert]
    by_cases hsame : name = session.id
    · subst hsame
      rw [if_pos (Std.ReflCmp.compare_self), Option.map_some]
      exact Directory.lookup_put_self _ _ _
    · have hne : ¬ compare session.id name = .eq := fun heq =>
        hsame (Std.LawfulEqCmp.eq_of_compare heq).symm
      have hfile : fileName name ≠ fileName session.id := fun heq => hsame (fileName_inj.1 heq)
      rw [if_neg hne, ← h.found name hn]
      exact Directory.lookup_put_ne hfile
  · rw [Std.ExtTreeMap.getElem?_insert] at hfound
    split_ifs at hfound
    · cases hfound
      exact hs
    · exact h.storable name found hfound

/-- Removing a session's file removes the session. -/
theorem erase (h : s.Keeps m) (hname : NamesSession name) :
    (s.withEntries (s.dir.entries.filter fun f => f.1 != fileName name)).Keeps (m.erase name) := by
  refine ⟨nofun, h.distinct.filter _, fun f hf => h.own f (List.mem_filter.1 hf).1,
    fun other hn => ?_, h.named.erase name, fun other found hfound => ?_⟩
  · rw [Std.ExtTreeMap.getElem?_erase]
    by_cases hsame : other = name
    · subst hsame
      rw [if_pos (Std.ReflCmp.compare_self), Option.map_none]
      exact Directory.lookup_filter_not fun _ => bne_self_eq_false _
    · have hne : ¬ compare name other = .eq := fun heq =>
        hsame (Std.LawfulEqCmp.eq_of_compare heq).symm
      have hfile : fileName other ≠ fileName name := fun heq => hsame (fileName_inj.1 heq)
      rw [if_neg hne, ← h.found other hn]
      exact Directory.lookup_filter_of fun _ => bne_iff_ne.2 hfile
  · rw [Std.ExtTreeMap.getElem?_erase] at hfound
    split_ifs at hfound
    exact h.storable other found hfound

theorem readRecord (h : s.Keeps m) (hname : NamesSession name) :
    s.readRecord name = .ok (m[name]?.map Session.write) := by
  have hfound := h.found name hname
  unfold SessionStore.readRecord
  rw [if_neg (not_refused hname)]
  cases hm : m[name]? with
  | none =>
    rw [hm] at hfound
    rw [Directory.read_of_none h.unobstructed hfound]
    rfl
  | some session =>
    rw [hm] at hfound
    rw [Directory.read_of_text hfound]
    rfl

/-- Writing a session's file: the directory is made, and the session put into it unless there is
one that must stay. -/
theorem writeRecord (h : s.Keeps m) (hname : NamesSession session.id) (overwrite : Bool) :
    SessionStore.writeRecord session overwrite s =
      if session.id ∈ m ∧ overwrite = false then
        (.error (.alreadyExists s!"session {session.id}"), s.withEntries s.dir.entries)
      else (.ok (), s.withEntries
        (Directory.put (fileName session.id) (.text session.write) s.dir.entries)) := by
  have hfound := h.found session.id hname
  unfold SessionStore.writeRecord
  rw [if_neg (not_refused hname), Directory.create_eq h.unobstructed]
  dsimp only
  rw [hfound]
  cases hm : m[session.id]? with
  | none =>
    have hnot : session.id ∉ m := fun hmem => by
      obtain ⟨old, hold⟩ := SessionMap.mem_iff.1 hmem
      rw [hold] at hm
      cases hm
    rw [if_neg fun hboth => hnot hboth.1]
    rfl
  | some old =>
    have hmem : session.id ∈ m := SessionMap.mem_iff.2 ⟨old, hm⟩
    cases overwrite with
    | true =>
      rw [if_neg fun hboth => Bool.noConfusion hboth.2]
      rfl
    | false =>
      rw [if_pos ⟨hmem, rfl⟩]
      rfl

/-- What is not refused is done as the map does it, and what is refused is refused by the map. -/
theorem guarded {α : Type} {f : SessionStore → Except Failure α × SessionStore}
    {g : SessionMap → Except Failure α × SessionMap} (h : s.Keeps m)
    (refused : ¬ NamesSession name → f s = (.error (invalidId name), s))
    (asked : NamesSession name → (f s).1 = (g m).1 ∧ (f s).2.Keeps (g m).2) :
    (f s).1 = (m.guarded name g).1 ∧ (f s).2.Keeps (m.guarded name g).2 := by
  unfold SessionMap.guarded
  split_ifs with hname
  · exact asked hname
  · rw [refused hname]
    exact ⟨rfl, h⟩

theorem save (h : s.Keeps m) (hs : session.IsStorable) :
    (s.save session).1 = (m.guarded session.id (SessionMap.save session)).1 ∧
      (s.save session).2.Keeps (m.guarded session.id (SessionMap.save session)).2 := by
  refine h.guarded (f := SessionStore.save session) (fun hname => ?_) fun hname => ?_
  · exact writeRecord_of_not hname true s
  · unfold SessionStore.save
    rw [h.writeRecord hname true, if_neg fun hboth => Bool.noConfusion hboth.2]
    exact ⟨rfl, h.put hname hs⟩

theorem create (h : s.Keeps m) (name : String) (overwrite : Bool) {now : Instant} {pid : Nat}
    (hnow : now.IsCivil) (hpid : pid ≤ Json.maxPid) :
    (s.create name overwrite now pid).1 =
        (m.guarded name (SessionMap.create name overwrite now pid)).1 ∧
      (s.create name overwrite now pid).2.Keeps
        (m.guarded name (SessionMap.create name overwrite now pid)).2 := by
  refine h.guarded (f := SessionStore.create name overwrite now pid) (fun hname => ?_)
    fun hname => ?_
  · exact create_of_not hname overwrite now pid s
  · have hid : NamesSession (Session.new name now pid).id := hname
    have hwritten := h.writeRecord hid overwrite
    have hs : (Session.new name now pid).IsStorable := ⟨.nil, hnow, hnow, hpid⟩
    unfold SessionStore.create SessionMap.create
    dsimp only
    rw [hwritten]
    by_cases hthere : name ∈ m ∧ overwrite = false
    · have hnew : (Session.new name now pid).id ∈ m ∧ overwrite = false := hthere
      rw [if_pos hnew, if_pos hthere]
      exact ⟨rfl, h.withEntries⟩
    · have hnew : ¬ ((Session.new name now pid).id ∈ m ∧ overwrite = false) := hthere
      rw [if_neg hnew, if_neg hthere]
      exact ⟨rfl, h.put hname hs⟩

theorem load_eq (h : s.Keeps m) (hname : NamesSession name) : s.load name = .ok m[name]? := by
  unfold SessionStore.load
  rw [h.readRecord hname]
  cases hm : m[name]? with
  | none => rfl
  | some session =>
    dsimp only [Option.map_some]
    rw [Session.read?_write (h.storable name session hm)]

theorem load (h : s.Keeps m) (name : String) :
    s.load name = (m.guarded name (SessionMap.load name)).1 := by
  unfold SessionMap.guarded
  split_ifs with hname
  · exact h.load_eq hname
  · exact load_of_not hname s

theorem openOrCreate (h : s.Keeps m) (name : String) {now : Instant} {pid : Nat}
    (hnow : now.IsCivil) (hpid : pid ≤ Json.maxPid) :
    (s.openOrCreate name now pid).1 =
        (m.guarded name (SessionMap.openOrCreate name now pid)).1 ∧
      (s.openOrCreate name now pid).2.Keeps
        (m.guarded name (SessionMap.openOrCreate name now pid)).2 := by
  refine h.guarded (f := SessionStore.openOrCreate name now pid) (fun hname => ?_) fun hname => ?_
  · exact openOrCreate_of_not hname now pid s
  · obtain ⟨hresult, hkeeps⟩ := h.create name false hnow hpid
    unfold SessionStore.openOrCreate SessionMap.openOrCreate
    rw [h.load_eq hname]
    cases hm : m[name]? with
    | some session => exact ⟨rfl, h⟩
    | none =>
      have hnot : ¬ (name ∈ m ∧ false = false) := fun hboth => by
        obtain ⟨old, hold⟩ := SessionMap.mem_iff.1 hboth.1
        rw [hold] at hm
        cases hm
      unfold SessionMap.guarded SessionMap.create at hresult hkeeps
      rw [if_pos hname, if_neg hnot] at hresult hkeeps
      cases hcreated : s.create name false now pid with
      | mk result s' =>
        rw [hcreated] at hresult hkeeps
        dsimp only at hresult
        subst hresult
        exact ⟨rfl, hkeeps⟩

theorem metadata (h : s.Keeps m) (name : String) (now : Instant) :
    s.metadata name now = (m.guarded name (SessionMap.metadata name now)).1 := by
  unfold SessionMap.guarded
  split_ifs with hname
  · unfold SessionStore.metadata SessionMap.metadata
    rw [h.readRecord hname]
    cases hm : m[name]? with
    | none => rfl
    | some session =>
      dsimp only [Option.map_some]
      rw [SessionOrigin.read?_write (h.storable name session hm)]
      rfl
  · exact metadata_of_not hname now s

theorem mem_iff (h : s.Keeps m) :
    name ∈ m ↔ NamesSession name ∧ ∃ e, (fileName name, e) ∈ s.dir.entries := by
  rw [SessionMap.mem_iff]
  constructor
  · rintro ⟨session, hm⟩
    have hname := (h.named name session hm).1
    have hfound := h.found name hname
    rw [hm, Option.map_some] at hfound
    exact ⟨hname, _, (Directory.lookup_eq_some_iff h.distinct).1 hfound⟩
  · rintro ⟨hname, e, he⟩
    have hfound := h.found name hname
    rw [(Directory.lookup_eq_some_iff h.distinct).2 he] at hfound
    obtain ⟨session, hm, -⟩ := Option.map_eq_some_iff.1 hfound.symm
    exact ⟨session, hm⟩

theorem list (h : s.Keeps m) : s.list = .ok m.keys := by
  obtain ⟨names, hlist, hordered, hmem⟩ := exists_list h.unobstructed h.distinct
  have hsame : names.Perm m.keys := by
    refine (List.perm_ext_iff_of_nodup (hordered.imp ne_of_lt)
      (m.keys_ordered.imp ne_of_lt)).2 fun name => ?_
    rw [hmem, Std.ExtTreeMap.mem_keys, h.mem_iff]
  rw [hlist, hsame.eq_of_pairwise (fun a b _ _ hab hba => absurd hba (lt_asymm hab)) hordered
    m.keys_ordered]

theorem delete (h : s.Keeps m) (name : String) :
    (s.delete name).1 = (m.guarded name (SessionMap.delete name)).1 ∧
      (s.delete name).2.Keeps (m.guarded name (SessionMap.delete name)).2 := by
  refine h.guarded (f := SessionStore.delete name) (fun hname => ?_) fun hname => ?_
  · exact delete_of_not hname s
  · have hfound := h.found name hname
    unfold SessionStore.delete SessionMap.delete
    rw [if_neg (not_refused hname)]
    cases hm : m[name]? with
    | none =>
      have hnot : m.contains name = false := by
        rw [Std.ExtTreeMap.contains_eq_isSome_getElem?, hm]
        rfl
      have hsame : m.erase name = m := by
        refine Std.ExtTreeMap.ext_getElem? fun other => ?_
        rw [Std.ExtTreeMap.getElem?_erase]
        split_ifs with heq
        · rw [← Std.LawfulEqCmp.eq_of_compare heq, hm]
        · rfl
      rw [hm] at hfound
      rw [Directory.remove_of_none h.unobstructed hfound, hnot, hsame]
      exact ⟨rfl, h⟩
    | some session =>
      have hthere : m.contains name = true := by
        rw [Std.ExtTreeMap.contains_eq_isSome_getElem?, hm]
        rfl
      rw [hm] at hfound
      rw [Directory.remove_of_some hfound nofun, hthere]
      exact ⟨rfl, h.erase hname⟩

theorem deleteAll {names : List String} (h : s.Keeps m) (hnodup : names.Nodup)
    (hmem : ∀ name ∈ names, name ∈ m) :
    (s.deleteAll names).1 = .ok names.length ∧
      (s.deleteAll names).2.Keeps (names.foldl Std.ExtTreeMap.erase m) := by
  induction names generalizing s m with
  | nil => exact ⟨rfl, h⟩
  | cons name names ih =>
    obtain ⟨hnot, hrest⟩ := List.nodup_cons.1 hnodup
    have hthere : m.contains name = true := hmem name List.mem_cons_self
    obtain ⟨session, hm⟩ := SessionMap.mem_iff.1 (hmem name List.mem_cons_self)
    obtain ⟨hresult, hkeeps⟩ := h.delete name
    unfold SessionMap.guarded SessionMap.delete at hresult hkeeps
    rw [if_pos (h.named name session hm).1] at hresult hkeeps
    have hlater : ∀ other ∈ names, other ∈ m.erase name := by
      intro other hother
      have hne : compare name other ≠ .eq := fun heq =>
        hnot (Std.LawfulEqCmp.eq_of_compare heq ▸ hother)
      exact Std.ExtTreeMap.mem_erase.2 ⟨hne, hmem other (List.mem_cons_of_mem name hother)⟩
    unfold SessionStore.deleteAll
    cases hdeleted : s.delete name with
    | mk result s' =>
      rw [hdeleted] at hresult hkeeps
      dsimp only at hresult hkeeps
      obtain ⟨hcount, hlast⟩ := ih hkeeps hrest hlater
      subst hresult
      dsimp only
      cases hafter : s'.deleteAll names with
      | mk count s'' =>
        rw [hafter] at hcount hlast
        dsimp only at hcount
        subst hcount
        dsimp only
        rw [hthere]
        exact ⟨rfl, hlast⟩

theorem clear (h : s.Keeps m) : s.clear.1 = .ok m.size ∧ s.clear.2.Keeps ∅ := by
  have hnodup : m.keys.Nodup := m.keys_ordered.imp ne_of_lt
  obtain ⟨hcount, hkeeps⟩ := h.deleteAll hnodup fun name hname => Std.ExtTreeMap.mem_keys.1 hname
  unfold SessionStore.clear
  rw [h.list]
  rw [Std.ExtTreeMap.length_keys] at hcount
  rw [SessionMap.foldl_erase_keys] at hkeeps
  exact ⟨hcount, hkeeps⟩

end Keeps

end SessionStore

/-! ### Requests -/

/-- What is stored can be read back. -/
def SessionRequest.IsStorable : SessionRequest → Prop
  | create _ _ now pid => now.IsCivil ∧ pid ≤ Json.maxPid
  | save session => session.IsStorable
  | openOrCreate _ now pid => now.IsCivil ∧ pid ≤ Json.maxPid
  | _ => True

/-- **What is no identifier is refused** by every request that takes one, and nothing changes,
whatever is in the store. -/
theorem SessionRequest.answer_of_not {q : SessionRequest} {name : String} (hq : q.name? = some name)
    (hname : ¬ NamesSession name) (s : SessionStore) :
    (q.answer s).1.failure? = some (SessionStore.invalidId name) ∧ (q.answer s).2 = s := by
  cases q with
  | create n overwrite now pid =>
    cases hq
    rw [answer, SessionStore.create_of_not hname]
    exact ⟨rfl, rfl⟩
  | save session =>
    cases hq
    rw [answer, SessionStore.save, SessionStore.writeRecord_of_not hname]
    exact ⟨rfl, rfl⟩
  | openOrCreate n now pid =>
    cases hq
    rw [answer, SessionStore.openOrCreate_of_not hname]
    exact ⟨rfl, rfl⟩
  | load n =>
    cases hq
    rw [answer, SessionStore.load_of_not hname]
    exact ⟨rfl, rfl⟩
  | metadata n now =>
    cases hq
    rw [answer, SessionStore.metadata_of_not hname]
    exact ⟨rfl, rfl⟩
  | delete n =>
    cases hq
    rw [answer, SessionStore.delete_of_not hname]
    exact ⟨rfl, rfl⟩
  | list => cases hq
  | clear => cases hq

namespace SessionStore

/-- **Each request is answered as the map answers it**, and leaves the sessions that the map then
has. -/
theorem Keeps.answer {s : SessionStore} {m : SessionMap} (h : s.Keeps m) {q : SessionRequest}
    (storable : q.IsStorable) :
    (q.answer s).1 = (q.answerByMap m).1 ∧ (q.answer s).2.Keeps (q.answerByMap m).2 := by
  cases q with
  | create name overwrite now pid =>
    obtain ⟨hresult, hkeeps⟩ := h.create name overwrite storable.1 storable.2
    exact ⟨congrArg SessionAnswer.opened hresult, hkeeps⟩
  | save session =>
    obtain ⟨hresult, hkeeps⟩ := h.save storable
    exact ⟨congrArg SessionAnswer.done hresult, hkeeps⟩
  | openOrCreate name now pid =>
    obtain ⟨hresult, hkeeps⟩ := h.openOrCreate name storable.1 storable.2
    exact ⟨congrArg SessionAnswer.opened hresult, hkeeps⟩
  | load name =>
    have hkeeps : s.Keeps (m.guarded name (SessionMap.load name)).2 := by
      unfold SessionMap.guarded
      split_ifs <;> exact h
    exact ⟨congrArg SessionAnswer.loaded (h.load name), hkeeps⟩
  | metadata name now =>
    have hkeeps : s.Keeps (m.guarded name (SessionMap.metadata name now)).2 := by
      unfold SessionMap.guarded
      split_ifs <;> exact h
    exact ⟨congrArg SessionAnswer.described (h.metadata name now), hkeeps⟩
  | list => exact ⟨congrArg SessionAnswer.listed h.list, h⟩
  | delete name =>
    obtain ⟨hresult, hkeeps⟩ := h.delete name
    exact ⟨congrArg SessionAnswer.removed hresult, hkeeps⟩
  | clear =>
    obtain ⟨hresult, hkeeps⟩ := h.clear
    exact ⟨congrArg SessionAnswer.cleared hresult, hkeeps⟩

/-- **The session store is a map.** Whatever is asked of a store whose directory is missing or
empty, one request after the other, it answers as the map does that takes each identifier to its
session. A session that it hands out is the one that was asked for, the identifiers that it lists are
in strict order, and what is no identifier is refused without any effect. -/
theorem answers_as_sessionMap (path : String) {dir : Directory}
    (start : dir = .missing ∨ dir = .present []) (requests : List SessionRequest)
    (storable : ∀ q ∈ requests, q.IsStorable) :
    answers SessionRequest.answer requests ⟨path, dir⟩ =
        answers SessionRequest.answerByMap requests ∅ ∧
      List.Forall₂ SessionRequest.Fits requests
        (answers SessionRequest.answer requests ⟨path, dir⟩) ∧
      ∀ (q : SessionRequest) (name : String), q.name? = some name → ¬ NamesSession name →
        ∀ s : SessionStore,
          (q.answer s).1.failure? = some (.config ("invalid session id: " ++ Text.quoted name)) ∧
            (q.answer s).2 = s := by
  have hsame : answers SessionRequest.answer requests ⟨path, dir⟩ =
      answers SessionRequest.answerByMap requests ∅ :=
    answers_eq_of_simulates (fun _ _ _ hq hkeeps => hkeeps.answer hq) storable
      (keeps_empty path start)
  refine ⟨hsame, ?_, fun q name hq hname s => SessionRequest.answer_of_not hq hname s⟩
  rw [hsame]
  exact forall₂_answers (I := SessionMap.Named) (fun q _ h => q.fits_answerByMap h)
    (fun q _ h => q.named_answerByMap h) requests SessionMap.named_empty

/-- A session with cookies and a token of every kind of character is stored under an identifier that
ends in a dot. It stays when a new one is to take its place; another one gets the name of its file
for an identifier; and a path is refused. -/
def crowded : List SessionRequest :=
  let early : Instant := ⟨-62167219200, 0⟩
  let late : Instant := ⟨253402300799, 999999999⟩
  let session : Session :=
    { id := "a.", cookies := "b=\"\\\n; ü=", token := some "\x01\x7f😀",
      jar := [("b", "\"\\\n"), ("ü", "")], createdAt := early, updatedAt := late, pid := 4294967295 }
  [.save session, .create "a." false late 7, .load "a.", .openOrCreate "a..json" early 0, .list,
    .create "../a" true early 1, .metadata "a." late, .delete "a..json", .clear]

theorem crowded_as_map : (∀ q ∈ crowded, q.IsStorable) ∧
    answers SessionRequest.answer crowded ⟨"sessions", .missing⟩ =
        answers SessionRequest.answerByMap crowded ∅ ∧
      List.Forall₂ SessionRequest.Fits crowded
        (answers SessionRequest.answer crowded ⟨"sessions", .missing⟩) ∧
      ∀ (q : SessionRequest) (name : String), q.name? = some name → ¬ NamesSession name →
        ∀ s : SessionStore,
          (q.answer s).1.failure? = some (.config ("invalid session id: " ++ Text.quoted name)) ∧
            (q.answer s).2 = s := by
  have early : (⟨-62167219200, 0⟩ : Instant).IsCivil := ⟨by decide, by decide, by decide⟩
  have late : (⟨253402300799, 999999999⟩ : Instant).IsCivil := ⟨by decide, by decide, by decide⟩
  have storable : ∀ q ∈ crowded, q.IsStorable := by
    intro q hq
    simp only [crowded, List.mem_cons, List.not_mem_nil, or_false] at hq
    rcases hq with rfl | rfl | rfl | rfl | rfl | rfl | rfl | rfl | rfl
    · exact ⟨List.pairwise_pair.2 (String.lt_iff_toList_lt.2 (by decide)), early, late, by decide⟩
    · exact ⟨late, by decide⟩
    · trivial
    · exact ⟨early, by decide⟩
    · trivial
    · exact ⟨early, by decide⟩
    all_goals trivial
  exact ⟨storable, answers_as_sessionMap "sessions" (.inl rfl) crowded storable⟩

end SessionStore

end EditLock
