/-
# Identifiers of sessions

What can name a session, in the terms of its characters, and which file keeps it: each identifier
has a file of its own, and its name gives the identifier back.

Key definitions: `NamesSession`.
Key theorems: `SessionStore.isValidId_iff`, `SessionStore.fileName_inj`,
`SessionStore.idOfFile?_eq_some_iff`.
-/
import Mathlib.Data.String.Basic
import EditLock.Session.Store

namespace EditLock

/-- Whether a text can name a session: 1 to 128 letters, digits, dots, underscores and hyphens, of
which the first is no dot. -/
def NamesSession (id : String) : Prop :=
  1 ≤ id.length ∧ id.length ≤ 128 ∧ id.toList.head? ≠ some '.' ∧
    ∀ c ∈ id.toList, c.isAlphanum ∨ c ∈ ['.', '_', '-']

instance (id : String) : Decidable (NamesSession id) :=
  inferInstanceAs (Decidable (_ ∧ _ ∧ _ ∧ _))

namespace SessionStore

theorem isIdChar_iff {c : Char} : isIdChar c = true ↔ c.isAlphanum ∨ c ∈ ['.', '_', '-'] := by
  simp [isIdChar, or_assoc]

/-- The characters of identifiers are single bytes. -/
theorem utf8Size_of_isIdChar {c : Char} (h : isIdChar c = true) : c.utf8Size = 1 := by
  have hle : c.val ≤ 127 := by
    rcases isIdChar_iff.1 h with halphanum | hmark
    · have hranges : c.isAlphanum = (decide ('A'.val ≤ c.val ∧ c.val ≤ 'Z'.val) ||
          (decide ('a'.val ≤ c.val) && decide (c.val ≤ 'z'.val)) ||
          (decide ('0'.val ≤ c.val) && decide (c.val ≤ '9'.val))) := rfl
      simp only [hranges, Bool.or_eq_true, Bool.and_eq_true, decide_eq_true_eq,
        UInt32.le_iff_toNat_le] at halphanum ⊢
      have hz : 'z'.val.toNat = 122 := rfl
      have hZ : 'Z'.val.toNat = 90 := rfl
      have h9 : '9'.val.toNat = 57 := rfl
      have hbound : (127 : UInt32).toNat = 127 := rfl
      omega
    · simp only [List.mem_cons, List.not_mem_nil, or_false] at hmark
      rcases hmark with rfl | rfl | rfl <;> decide
  exact if_pos hle

theorem utf8ByteSize_eq_length {id : String} (h : ∀ c ∈ id.toList, isIdChar c = true) :
    id.utf8ByteSize = id.length := by
  have hsize : ∀ cs : List Char, (∀ c ∈ cs, isIdChar c = true) →
      (String.ofList cs).utf8ByteSize = cs.length := by
    intro cs hcs
    induction cs with
    | nil => rfl
    | cons c cs ih =>
      rw [String.ofList_cons, String.utf8ByteSize_append, String.utf8ByteSize_singleton,
        utf8Size_of_isIdChar (hcs c List.mem_cons_self),
        ih fun d hd => hcs d (List.mem_cons_of_mem c hd), List.length_cons, Nat.add_comm]
  have hid := hsize id.toList h
  rwa [String.ofList_toList, String.length_toList] at hid

/-- **What the store takes as an identifier** is what can name a session. -/
theorem isValidId_iff {id : String} : isValidId id = true ↔ NamesSession id := by
  have hempty : id.isEmpty = false ↔ 1 ≤ id.length := by
    rw [Bool.eq_false_iff, ne_eq, String.isEmpty_iff, ← String.length_eq_zero_iff]
    omega
  simp only [isValidId, NamesSession, Bool.and_eq_true, Bool.not_eq_true', decide_eq_true_eq,
    List.all_eq_true, hempty, isIdChar_iff]
  constructor
  · rintro ⟨⟨⟨hone, hsize⟩, hdot⟩, hchars⟩
    rw [utf8ByteSize_eq_length fun c hc => isIdChar_iff.2 (hchars c hc)] at hsize
    exact ⟨hone, hsize, hdot, hchars⟩
  · rintro ⟨hone, hsize, hdot, hchars⟩
    rw [← utf8ByteSize_eq_length fun c hc => isIdChar_iff.2 (hchars c hc)] at hsize
    exact ⟨⟨⟨hone, hsize⟩, hdot⟩, hchars⟩

/-- What can name a session is not refused. -/
theorem not_refused {id : String} (h : NamesSession id) : ¬ (!isValidId id) = true := by
  rw [isValidId_iff.2 h]
  exact Bool.false_ne_true

theorem fileName_inj {id other : String} : fileName id = fileName other ↔ id = other :=
  String.append_left_inj ".json"

/-- **The name of a file gives back the identifier** whose session it keeps. -/
theorem idOfFile?_eq_some_iff {file id : String} :
    idOfFile? file = some id ↔ NamesSession id ∧ file = fileName id := by
  have hends : file.endsWith ".json" = true ↔ ".json".toList <:+ file.toList := by
    rw [String.endsWith_eq_endsWith_toSlice, String.Slice.endsWith_string_iff, String.copy_toSlice]
  unfold idOfFile?
  constructor
  · intro h
    dsimp only at h
    split_ifs at h with hjson hvalid
    obtain ⟨stem, hstem⟩ := hends.1 hjson
    have hlength : file.length - 5 = stem.length := by
      rw [← String.length_toList, ← hstem, List.length_append]
      rfl
    have hid : String.ofList stem = id := by
      rw [hlength, ← hstem, List.take_left] at h
      exact Option.some.inj h
    rw [hlength, ← hstem, List.take_left, hid] at hvalid
    refine ⟨isValidId_iff.1 hvalid, ?_⟩
    rw [fileName, ← hid, ← String.ofList_toList (s := file), ← hstem, String.ofList_append,
      String.ofList_toList]
  · rintro ⟨hid, rfl⟩
    have hjson : (fileName id).endsWith ".json" = true := by
      rw [hends, fileName, String.toList_append]
      exact List.suffix_append _ _
    have hlength : (fileName id).length - 5 = id.toList.length := by
      rw [fileName, String.length_append, String.length_toList]
      rfl
    have hstem : String.ofList ((fileName id).toList.take ((fileName id).length - 5)) = id := by
      rw [hlength, fileName, String.toList_append, List.take_left, String.ofList_toList]
    dsimp only
    rw [if_pos hjson, hstem, if_pos (isValidId_iff.2 hid)]

end SessionStore

end EditLock
