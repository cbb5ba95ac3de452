/-
# Upper case is stable

No image of the upper case table is in the table again, so upper-casing twice is upper-casing once
(`upper_upper`). No image is a blank, so a trimmed text is still trimmed when it is in upper case
(`trim_upper_trim`). Both are facts about the table: the code points that it maps, its images and
the blanks are written as sets of bits (`bitSet`), and the sets have no bit in common.

Key definitions: `bitSet`, `mappedCodes`, `imageCodes`, `blankCodes`.
Key theorems: `upperChar_eq_singleton`, `upper_upper`, `trim_upper_trim`.
-/
import Mathlib.Data.List.DropRight
import Mathlib.Data.Nat.Bitwise
import EditLock.Text.Case

namespace EditLock.Text

/-! ### Sets of code points as numbers -/

/-- The number whose bits are the members of a list. -/
def bitSet : List Nat → Nat
  | [] => 0
  | n :: ns => 1 <<< n ||| bitSet ns

theorem testBit_bitSet (ns : List Nat) (k : Nat) : (bitSet ns).testBit k = decide (k ∈ ns) := by
  induction ns with
  | nil => simp [bitSet]
  | cons n ns ih =>
    rw [bitSet, Nat.testBit_or, ih, Nat.one_shiftLeft, Nat.testBit_two_pow]
    by_cases h : k = n
    · simp [h]
    · simp [h, Ne.symm h]

/-- Lists whose numbers share no bit share no member. -/
theorem not_mem_of_bitSet {as bs : List Nat} (h : bitSet as &&& bitSet bs = 0) {n : Nat}
    (ha : n ∈ as) : n ∉ bs := by
  intro hb
  have hbit := congrArg (Nat.testBit · n) h
  simp [Nat.testBit_and, testBit_bitSet, ha, hb] at hbit

/-! ### The table -/

/-- The code points at the distances of a span from `start` on. -/
def CaseSpan.codes (s : CaseSpan) (start : Nat) : List Nat :=
  (List.range ((s.last - s.first) / s.step + 1)).map fun i => start + i * s.step

/-- The code points that the upper case table maps. -/
def mappedCodes : List Nat :=
  (upperSpans.flatMap fun s => s.codes s.first) ++ upperExpansions.map Prod.fst

/-- The code points that the upper case table maps to. -/
def imageCodes : List Nat :=
  (upperSpans.flatMap fun s => s.codes s.image) ++ upperExpansions.flatMap Prod.snd

/-- The code points of the blanks. -/
def blankCodes : List Nat :=
  blankRanges.flatMap fun r => List.range' r.1 (r.2 + 1 - r.1)

theorem bitSet_imageCodes_mappedCodes : bitSet imageCodes &&& bitSet mappedCodes = 0 := by
  decide +kernel

theorem bitSet_imageCodes_blankCodes : bitSet imageCodes &&& bitSet blankCodes = 0 := by
  decide +kernel

theorem mem_codes {s : CaseSpan} {n : Nat} (hf : s.first ≤ n) (hl : n ≤ s.last)
    (hs : (n - s.first) % s.step = 0) (start : Nat) : start + (n - s.first) ∈ s.codes start := by
  unfold CaseSpan.codes
  refine List.mem_map.mpr ⟨(n - s.first) / s.step, List.mem_range.mpr ?_, ?_⟩
  · have := Nat.div_le_div_right (c := s.step) (show n - s.first ≤ s.last - s.first by omega)
    omega
  · rw [Nat.div_mul_cancel (Nat.dvd_of_mod_eq_zero hs)]

/-- What a look-up finds is as far into the images of a span as the code point is into the span. -/
theorem exists_span_of_lookup {spans : List CaseSpan} {n m : Nat}
    (h : lookupSpan spans n = some m) :
    ∃ s ∈ spans, s.first ≤ n ∧ n ≤ s.last ∧ (n - s.first) % s.step = 0 ∧
      m = s.image + (n - s.first) := by
  induction spans with
  | nil => simp [lookupSpan] at h
  | cons s rest ih =>
    rw [lookupSpan] at h
    split at h
    · cases h
    · rename_i hf
      split at h
      · rename_i hin
        simp only [Bool.and_eq_true, decide_eq_true_eq, beq_iff_eq] at hin
        exact ⟨s, List.mem_cons_self, Nat.le_of_not_lt hf, hin.1, hin.2, (Option.some.inj h).symm⟩
      · obtain ⟨t, ht, hspan⟩ := ih h
        exact ⟨t, List.mem_cons_of_mem _ ht, hspan⟩

/-- What a look-up finds is an image of a span that holds the code point. -/
theorem lookupSpan_eq_some {spans : List CaseSpan} {n m : Nat} (h : lookupSpan spans n = some m) :
    ∃ s ∈ spans, n ∈ s.codes s.first ∧ m ∈ s.codes s.image := by
  obtain ⟨s, hs, hf, hl, hstep, rfl⟩ := exists_span_of_lookup h
  refine ⟨s, hs, ?_, mem_codes hf hl hstep s.image⟩
  have hmem := mem_codes hf hl hstep s.first
  rwa [Nat.add_sub_cancel' hf] at hmem

theorem mem_of_lookup_eq_some {entries : List (Nat × List Nat)} {n : Nat} {ms : List Nat}
    (h : entries.lookup n = some ms) : (n, ms) ∈ entries := by
  obtain ⟨before, after, rfl, -⟩ := List.lookup_eq_some_iff.mp h
  simp

/-- A code point that the table does not map is its own upper case. -/
theorem upperCodes_of_not_mem {n : Nat} (h : n ∉ mappedCodes) : upperCodes n = [n] := by
  have hspan : lookupSpan upperSpans n = none := by
    cases hl : lookupSpan upperSpans n with
    | none => rfl
    | some m =>
      obtain ⟨s, hs, hn, -⟩ := lookupSpan_eq_some hl
      exact absurd (List.mem_append_left _ (List.mem_flatMap.mpr ⟨s, hs, hn⟩)) h
  have hexp : upperExpansions.lookup n = none := by
    cases hl : upperExpansions.lookup n with
    | none => rfl
    | some ms =>
      have hmem := List.mem_map_of_mem (f := Prod.fst) (mem_of_lookup_eq_some hl)
      exact absurd (List.mem_append_right _ hmem) h
  simp [upperCodes, hspan, hexp]

/-- An upper case is the code point itself or an image of the table. -/
theorem mem_upperCodes {n m : Nat} (h : m ∈ upperCodes n) :
    m = n ∧ upperCodes n = [n] ∨ m ∈ imageCodes := by
  cases hl : lookupSpan upperSpans n with
  | some i =>
    obtain ⟨s, hs, -, hi⟩ := lookupSpan_eq_some hl
    simp only [upperCodes, hl, List.mem_singleton] at h
    exact .inr (List.mem_append_left _ (List.mem_flatMap.mpr ⟨s, hs, h ▸ hi⟩))
  | none =>
    cases he : upperExpansions.lookup n with
    | some ms =>
      simp only [upperCodes, hl, he, Option.getD_some] at h
      exact .inr (List.mem_append_right _
        (List.mem_flatMap.mpr ⟨(n, ms), mem_of_lookup_eq_some he, h⟩))
    | none =>
      simp only [upperCodes, hl, he, Option.getD_none, List.mem_singleton] at h
      exact .inl ⟨h, by simp [upperCodes, hl, he]⟩

theorem upperCodes_ne_nil (n : Nat) : upperCodes n ≠ [] := by
  unfold upperCodes
  split
  · simp
  · cases he : upperExpansions.lookup n with
    | none => simp
    | some ms =>
      have hall : ∀ e ∈ upperExpansions, e.2 ≠ [] := by decide
      simpa using hall _ (mem_of_lookup_eq_some he)

/-! ### Characters and texts -/

theorem toNat_ofNat_of_isValidChar {n : Nat} (h : n.isValidChar) : (Char.ofNat n).toNat = n := by
  rw [Char.ofNat, dif_pos h]
  rfl

/-- A code point becomes its character, or the character with code point 0 where there is none. -/
theorem toNat_ofNat (n : Nat) : (Char.ofNat n).toNat = n ∨ Char.ofNat n = Char.ofNat 0 := by
  by_cases h : n.isValidChar
  · exact .inl (toNat_ofNat_of_isValidChar h)
  · right
    rw [Char.ofNat, dif_neg h]
    rfl

theorem mem_blankCodes {n : Nat} (h : inRanges blankRanges n = true) : n ∈ blankCodes := by
  simp only [inRanges, List.any_eq_true, Bool.and_eq_true, decide_eq_true_eq] at h
  obtain ⟨r, hr, hlo, hhi⟩ := h
  exact List.mem_flatMap.mpr ⟨r, hr, List.mem_range'_1.mpr (by omega)⟩

/-- **An upper case is in upper case.** Each character of it is its own upper case. -/
theorem upperChar_eq_singleton {c d : Char} (h : d ∈ upperChar c) : upperChar d = [d] := by
  obtain ⟨m, hm, rfl⟩ := List.mem_map.mp h
  rcases toNat_ofNat m with hn | hz
  · have hcodes : upperCodes m = [m] := by
      rcases mem_upperCodes hm with ⟨rfl, hself⟩ | himage
      · exact hself
      · exact upperCodes_of_not_mem (not_mem_of_bitSet bitSet_imageCodes_mappedCodes himage)
    simp [upperChar, hn, hcodes]
  · rw [hz]
    decide

/-- An upper case has no blank, but that of a blank. -/
theorem isBlank_of_mem_upperChar {c d : Char} (hc : isBlank c = false) (h : d ∈ upperChar c) :
    isBlank d = false := by
  obtain ⟨m, hm, rfl⟩ := List.mem_map.mp h
  rcases toNat_ofNat m with hn | hz
  · rcases mem_upperCodes hm with ⟨rfl, -⟩ | himage
    · simpa [isBlank, hn] using hc
    · rw [isBlank, hn, Bool.eq_false_iff]
      exact fun hb => not_mem_of_bitSet bitSet_imageCodes_blankCodes himage (mem_blankCodes hb)
  · rw [hz]
    decide

theorem upperChar_ne_nil (c : Char) : upperChar c ≠ [] := by
  simpa [upperChar] using upperCodes_ne_nil c.toNat

/-- **Upper-casing twice is upper-casing once.** -/
theorem upper_upper (cs : List Char) : upper (upper cs) = upper cs := by
  have hfix : ∀ ds : List Char, (∀ d ∈ ds, upperChar d = [d]) → upper ds = ds := by
    intro ds hds
    rw [upper, List.flatMap_congr hds, List.flatMap_singleton']
  refine hfix _ fun d hd => ?_
  obtain ⟨c, -, hd⟩ := List.mem_flatMap.mp hd
  exact upperChar_eq_singleton hd

/-! ### Trimming -/

theorem trim_eq_rdropWhile (cs : List Char) :
    trim cs = (cs.dropWhile isBlank).rdropWhile isBlank := rfl

/-- A text is trimmed if it neither starts nor ends with a blank. -/
theorem trim_eq_self {cs : List Char} (hh : ∀ c ∈ cs.head?, isBlank c = false)
    (hl : ∀ c ∈ cs.getLast?, isBlank c = false) : trim cs = cs := by
  have hstart : cs.dropWhile isBlank = cs := trimStart_eq_self_iff.mpr hh
  have hend : cs.reverse.dropWhile isBlank = cs.reverse :=
    trimStart_eq_self_iff.mpr (by simpa using hl)
  rw [trim_eq_rdropWhile, hstart, List.rdropWhile, hend, List.reverse_reverse]

theorem isBlank_head_trim (cs : List Char) : ∀ c ∈ (trim cs).head?, isBlank c = false := by
  intro c hc
  obtain ⟨rest, hrest⟩ := List.rdropWhile_prefix isBlank (cs.dropWhile isBlank)
  rw [trim_eq_rdropWhile] at hc
  refine isBlank_head_trimStart cs c ?_
  rw [trimStart, ← hrest]
  simp [List.head?_append, Option.mem_def.mp hc]

theorem isBlank_getLast_trim (cs : List Char) : ∀ c ∈ (trim cs).getLast?, isBlank c = false := by
  intro c hc
  refine isBlank_head_trimStart (trimStart cs).reverse c ?_
  simpa [trim] using hc

/-- The upper case of a trimmed text is trimmed. -/
theorem trim_upper_trim (cs : List Char) : trim (upper (trim cs)) = upper (trim cs) := by
  have hhead := isBlank_head_trim cs
  have hlast := isBlank_getLast_trim cs
  generalize trim cs = ds at hhead hlast
  refine trim_eq_self (fun d hd => ?_) (fun d hd => ?_)
  · cases ds with
    | nil => simp [upper] at hd
    | cons c ds =>
      have hd' : d ∈ upperChar c := by
        rw [upper, List.flatMap_cons, List.head?_append_of_ne_nil _ (upperChar_ne_nil c)] at hd
        exact List.mem_of_head? hd
      exact isBlank_of_mem_upperChar (hhead c rfl) hd'
  · rcases List.eq_nil_or_concat' ds with rfl | ⟨front, c, rfl⟩
    · simp [upper] at hd
    · have hd' : d ∈ upperChar c := by
        rw [upper, List.flatMap_append, List.flatMap_singleton,
          List.getLast?_append_of_ne_nil _ (upperChar_ne_nil c)] at hd
        exact List.mem_of_getLast? hd
      exact isBlank_of_mem_upperChar (hlast c (by simp)) hd'

end EditLock.Text
