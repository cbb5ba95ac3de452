/-
# Storing a session on a disk that may fail

Where a session can be read, its file can also be replaced: nothing is in the way. A save that the
disk takes is then what is read, and a save that fails leaves what was there.

Key definitions: `SessionStore.Takes`.
Key theorems: `SessionStore.takes_of_load`, `SessionStore.Takes.load_save`,
`SessionStore.Takes.load_saveWith_fault`.
-/
import EditLock.Proofs.Session.AsMap

namespace EditLock.SessionStore

/-- Nothing is in the way of storing a session under the name. -/
structure Takes (s : SessionStore) (name : String) : Prop where
  named : NamesSession name
  unobstructed : s.dir ≠ .obstructed
  free : s.dir.entries.lookup (fileName name) ≠ some .directory

variable {s : SessionStore} {name : String} {session : Session}

/-- What can be read can be replaced. -/
theorem takes_of_load (h : s.load name = .ok (some session)) : s.Takes name := by
  by_cases hname : NamesSession name
  · rw [load, readRecord, if_neg (not_refused hname)] at h
    refine ⟨hname, fun hdir => ?_, fun hfound => ?_⟩
    · rw [hdir] at h
      cases h
    · cases hdir : s.dir with
      | present entries =>
        rw [hdir] at h hfound
        have hlookup : entries.lookup (fileName name) = some .directory := hfound
        rw [Directory.read, hlookup] at h
        cases h
      | missing =>
        rw [hdir] at hfound
        cases hfound
      | obstructed =>
        rw [hdir] at hfound
        cases hfound
  · rw [load_of_not hname] at h
    cases h

/-- Making sure that the directory is there changes nothing that can be read. -/
theorem load_withEntries (hdir : s.dir ≠ .obstructed) (name : String) :
    (s.withEntries s.dir.entries).load name = s.load name := by
  obtain ⟨path, dir⟩ := s
  cases dir with
  | missing => rfl
  | obstructed => exact absurd rfl hdir
  | present entries => rfl

namespace Takes

theorem save_eq (h : s.Takes session.id) :
    s.save session = (.ok (), s.withEntries
      (Directory.put (fileName session.id) (.text session.write) s.dir.entries)) := by
  unfold save writeRecord
  rw [if_neg (not_refused h.named), Directory.create_eq h.unobstructed]
  dsimp only
  cases hfound : s.dir.entries.lookup (fileName session.id) with
  | none => rfl
  | some e =>
    have hfree : e ≠ .directory := fun he => h.free (by rw [hfound, he])
    dsimp only
    rw [Bool.not_true, if_neg Bool.false_ne_true, if_neg hfree]
    rfl

theorem saveWith_fault (h : s.Takes session.id) (fault : WriteFault) :
    s.saveWith (some fault) session =
      (.error (.io (s.faultText session.id fault)),
        if fault = .directory then s else s.withEntries s.dir.entries) := by
  unfold saveWith
  dsimp only
  rw [if_neg (not_refused h.named), Directory.create_eq h.unobstructed]
  cases fault <;> rfl

/-- **What is stored is what is read.** -/
theorem load_save (h : s.Takes session.id) (hs : session.IsStorable) :
    (s.save session).2.load session.id = .ok (some session) := by
  have hread : (s.save session).2.dir.read (fileName session.id) = .ok session.write := by
    rw [h.save_eq]
    exact Directory.read_of_text (Directory.lookup_put_self _ _ _)
  rw [load, readRecord, if_neg (not_refused h.named), hread]
  dsimp only
  rw [Session.read?_write hs]

/-- **A save that the disk does not take leaves what was there.** -/
theorem load_saveWith_fault (h : s.Takes session.id) (fault : WriteFault) (name : String) :
    (s.saveWith (some fault) session).2.load name = s.load name := by
  rw [h.saveWith_fault]
  dsimp only
  split_ifs
  · rfl
  · exact load_withEntries h.unobstructed name

end Takes

end EditLock.SessionStore
