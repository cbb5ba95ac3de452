/-
# Cutting and trimming

A text that is cut at a character which is no blank can be trimmed before or after: what is trimmed
on the left of the character does not depend on what stands on its right. Trimming what was trimmed
already, at one end or at both, changes nothing.

Key theorems: `takeWhile_append_head`, `trim_append_cons`, `trim_trimStart`, `trim_rdropWhile`,
`trim_trim`.
-/
import EditLock.Proofs.Text.UpperCase

namespace EditLock.Text

variable {cs left right blanks : List Char} {c : Char}

theorem dropWhile_append_cons {p : Char → Bool} (h : p c = false) (left right : List Char) :
    (left ++ c :: right).dropWhile p = left.dropWhile p ++ c :: right := by
  induction left with
  | nil => simp [h]
  | cons d left ih =>
    by_cases hd : p d
    · simpa [hd] using ih
    · simp [hd]

/-- What is no blank keeps what is trimmed on its left from what is trimmed on its right. -/
theorem trim_append_cons (h : isBlank c = false) (left right : List Char) :
    trim (left ++ c :: right) = trimStart left ++ c :: right.rdropWhile isBlank := by
  have hstart : trimStart (left ++ c :: right) = trimStart left ++ c :: right :=
    dropWhile_append_cons h left right
  have hreverse : (trimStart left ++ c :: right).reverse =
      right.reverse ++ c :: (trimStart left).reverse := by simp
  rw [trim, hstart, hreverse, trimStart, dropWhile_append_cons h]
  simp [List.rdropWhile, trimStart]

theorem trim_trimStart (cs : List Char) : trim (trimStart cs) = trim cs := by
  unfold trim trimStart
  rw [List.dropWhile_idempotent]

/-- Blanks at the end are trimmed. -/
theorem trim_append_blanks (h : ∀ c ∈ blanks, isBlank c = true) (cs : List Char) :
    trim (cs ++ blanks) = trim cs := by
  have hblanks : blanks.dropWhile isBlank = [] := List.dropWhile_eq_nil_iff.2 h
  have hreverse : ∀ c ∈ blanks.reverse, isBlank c = true := by simpa using h
  unfold trim trimStart
  rw [List.dropWhile_append]
  split_ifs with hcs
  · rw [hblanks, List.isEmpty_iff.1 hcs]
  · rw [List.reverse_append, List.dropWhile_append_of_pos hreverse]

theorem trim_rdropWhile (cs : List Char) : trim (cs.rdropWhile isBlank) = trim cs := by
  have hblanks : ∀ c ∈ cs.rtakeWhile isBlank, isBlank c = true := fun c hc =>
    List.mem_rtakeWhile_imp hc
  calc trim (cs.rdropWhile isBlank)
      = trim (cs.rdropWhile isBlank ++ cs.rtakeWhile isBlank) := (trim_append_blanks hblanks _).symm
    _ = trim cs := by rw [List.rdropWhile_append_rtakeWhile]

theorem trim_trim (cs : List Char) : trim (trim cs) = trim cs :=
  trim_eq_self (isBlank_head_trim cs) (isBlank_getLast_trim cs)

theorem mem_of_mem_trim (h : c ∈ trim cs) : c ∈ cs := by
  rw [trim, List.mem_reverse] at h
  have hstart : c ∈ trimStart cs := by
    simpa using (List.dropWhile_sublist isBlank).subset h
  exact (List.dropWhile_sublist isBlank).subset hstart

theorem takeWhile_append_head {p : Char → Bool} {piece rest : List Char}
    (hpiece : ∀ c ∈ piece, p c = true) (hrest : ∀ c ∈ rest.head?, p c = false) :
    (piece ++ rest).takeWhile p = piece := by
  rw [List.takeWhile_append_of_pos hpiece]
  cases rest with
  | nil => simp
  | cons c rest => simp [hrest c rfl]

end EditLock.Text
