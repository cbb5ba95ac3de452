/-
# Upper case is read back from lower case

Two names in upper case that have the same lower case are the same name, but for a few letters: the
signs of Kelvin, Ohm and Angstrom and the theta sign share their lower case with a letter, and the
capital I with a dot shares it with an I and a dot. A slash that is escaped shares its escape with
three characters in the same way. So from a lower case with escaped slashes a name in upper case is
read back up to these spellings (`capital_lower`), and two names that differ all the same have, at
the first place where they do, one of the characters of `spellings` and its spelling
(`eq_or_speltApart_of_lower`).

Most of this is one fact about the tables: each span of the lower case table is undone by a span of
the upper case table, but for a few whose code points are checked one by one.

Key definitions: `spellings`, `spelling`, `capital`, `CaseSpan.Undoes`, `SpeltApart`.
Key theorems: `lookupSpan_of_mem`, `capital_lowerChar`, `capital_lower`, `SpeltApart.ne`,
`eq_or_speltApart_of_lower`.
-/
import Mathlib.Data.List.Chain
import EditLock.Proofs.Text.UpperCase

namespace EditLock.Text

/-! ### Spellings -/

/-- The characters in upper case that lower case and escaping do not keep apart from a text: each
with the text that has the same lower case, or the same escape. -/
def spellings : List (Char × List Char) :=
  [('/', "%2F".toList), ('\u0130', "I\u0307".toList), ('\u03F4', "\u0398".toList),
   ('\u2126', "\u03A9".toList), ('\u212A', "K".toList), ('\u212B', "\u00C5".toList)]

/-- The text that stands for a character where characters are not told apart from their
spellings. -/
def spelling (c : Char) : List Char :=
  (spellings.lookup c).getD [c]

/-- The upper case of a letter that is the lower case of a letter: a sharp s comes from the capital
sharp s, and not from two letters. -/
def capital (c : Char) : List Char :=
  if c = 'ß' then ['\u1E9E'] else upperChar c

/-- A slash is escaped. -/
def escapeSlash (c : Char) : List Char :=
  if c = '/' then ['%', '2', 'f'] else [c]

/-! ### The tables -/

/-- A span sends the images of another back to its code points. -/
def CaseSpan.Undoes (u s : CaseSpan) : Prop :=
  u.first ≤ s.image ∧ s.image + (s.last - s.first) ≤ u.last ∧ (s.image - u.first) % u.step = 0 ∧
    s.step % u.step = 0 ∧ u.image + (s.image - u.first) = s.first

instance (u s : CaseSpan) : Decidable (u.Undoes s) :=
  inferInstanceAs (Decidable (_ ∧ _))

/-- A span starts before another, and ends before it starts. -/
def CaseSpan.Precedes (a b : CaseSpan) : Prop :=
  a.first < b.first ∧ a.last < b.first

instance (a b : CaseSpan) : Decidable (a.Precedes b) :=
  inferInstanceAs (Decidable (_ ∧ _))

instance : Trans CaseSpan.Precedes CaseSpan.Precedes CaseSpan.Precedes where
  trans h h' := ⟨h.1.trans h'.1, h.2.trans h'.1⟩

/-- The upper case table is in order. -/
theorem pairwise_upperSpans : upperSpans.Pairwise CaseSpan.Precedes := by
  have hchain : upperSpans.IsChain CaseSpan.Precedes := by decide +kernel
  exact List.isChain_iff_pairwise.1 hchain

/-- No span of the upper case table holds a surrogate, or a number beyond the last character. -/
theorem isValidChar_upperSpans :
    ∀ u ∈ upperSpans, u.last < 0xD800 ∨ 0xDFFF < u.first ∧ u.last < 0x110000 := by
  decide +kernel

/-- In a table in order, a code point is found in the span that holds it. -/
theorem lookupSpan_of_mem {spans : List CaseSpan} {u : CaseSpan} {n : Nat}
    (hsorted : spans.Pairwise CaseSpan.Precedes) (hu : u ∈ spans) (hf : u.first ≤ n)
    (hl : n ≤ u.last) (hstep : (n - u.first) % u.step = 0) :
    lookupSpan spans n = some (u.image + (n - u.first)) := by
  induction spans with
  | nil => simp at hu
  | cons s rest ih =>
    obtain ⟨hbefore, hrest⟩ := List.pairwise_cons.1 hsorted
    rw [lookupSpan]
    rcases List.mem_cons.1 hu with rfl | hlater
    · have hstart : ¬ n < u.first := Nat.not_lt.2 hf
      simp [hstart, hl, hstep]
    · obtain ⟨hfirst, hlast⟩ := hbefore u hlater
      have hstart : ¬ n < s.first := by omega
      have hend : ¬ n ≤ s.last := by omega
      simp [hstart, hend, ih hrest hlater]

/-- What undoes a span finds each of its code points from the image. -/
theorem CaseSpan.Undoes.lookupSpan_upperSpans {u s : CaseSpan} (hundoes : u.Undoes s)
    (hu : u ∈ upperSpans) {n : Nat} (hf : s.first ≤ n) (hl : n ≤ s.last)
    (hstep : (n - s.first) % s.step = 0) :
    lookupSpan upperSpans (s.image + (n - s.first)) = some n := by
  obtain ⟨hfirst, hlast, hphase, hstride, himage⟩ := hundoes
  have hplace : s.image + (n - s.first) - u.first = (s.image - u.first) + (n - s.first) := by omega
  have hmod : (s.image + (n - s.first) - u.first) % u.step = 0 := by
    rw [hplace]
    have hdvd : u.step ∣ n - s.first :=
      (Nat.dvd_of_mod_eq_zero hstride).trans (Nat.dvd_of_mod_eq_zero hstep)
    exact Nat.mod_eq_zero_of_dvd (Nat.dvd_add (Nat.dvd_of_mod_eq_zero hphase) hdvd)
  have hfound := lookupSpan_of_mem pairwise_upperSpans hu (n := s.image + (n - s.first))
    (by omega) (by omega) hmod
  rw [hfound]
  congr 1
  omega

theorem isValidChar_of_lookup {n m : Nat} (h : lookupSpan upperSpans n = some m) :
    n.isValidChar := by
  obtain ⟨u, hu, hf, hl, -⟩ := exists_span_of_lookup h
  rcases isValidChar_upperSpans u hu with hlow | hhigh
  · exact .inl (by omega)
  · exact .inr (by omega)

/-- The code points of the characters that have a spelling. -/
def speltCodes : List Nat :=
  spellings.map fun s => s.1.toNat

/-- No character that has a spelling is the upper case of another. -/
theorem bitSet_imageCodes_speltCodes : bitSet imageCodes &&& bitSet speltCodes = 0 := by
  decide +kernel

theorem spelling_of_not_mem {c : Char} (h : c.toNat ∉ speltCodes) : spelling c = [c] := by
  have hnone : spellings.lookup c = none := by
    rw [List.lookup_eq_none_iff]
    intro s hs
    have hne : c ≠ s.1 := by
      rintro rfl
      exact h (List.mem_map_of_mem hs)
    simpa using hne
  rw [spelling, hnone, Option.getD_none]

theorem spelling_of_mem_imageCodes {n : Nat} (h : n ∈ imageCodes) :
    spelling (Char.ofNat n) = [Char.ofNat n] := by
  apply spelling_of_not_mem
  rcases toNat_ofNat n with hn | hzero
  · rw [hn]
    exact not_mem_of_bitSet bitSet_imageCodes_speltCodes h
  · rw [hzero]
    decide

/-- A sharp s is not in the spans of the upper case table. -/
theorem capital_of_lookup_upperSpans {n m : Nat} (h : lookupSpan upperSpans m = some n) :
    capital (Char.ofNat m) = [Char.ofNat n] := by
  have hm : (Char.ofNat m).toNat = m := toNat_ofNat_of_isValidChar (isValidChar_of_lookup h)
  have hsharp : lookupSpan upperSpans 'ß'.toNat = none := by decide
  have hplain : Char.ofNat m ≠ 'ß' := by
    intro he
    rw [← he, hm, h] at hsharp
    cases hsharp
  rw [capital, if_neg hplain, upperChar, hm, upperCodes, h]
  rfl

/-- The lower case table is undone span by span, but for a few code points. -/
theorem lowerSpans_undone :
    ∀ s ∈ lowerSpans, (∃ u ∈ upperSpans, u.Undoes s) ∨
      ∀ i ∈ List.range ((s.last - s.first) / s.step + 1),
        upperCodes (s.first + i * s.step) = [s.first + i * s.step] →
        (s.image + i * s.step).isValidChar ∧ s.image + i * s.step ≠ '/'.toNat ∧
        capital (Char.ofNat (s.image + i * s.step)) =
          spelling (Char.ofNat (s.first + i * s.step)) := by
  decide +kernel

/-- A code point in upper case becomes a code point in lower case from which it is read back. -/
theorem capital_of_lookup {n m : Nat} (h : lookupSpan lowerSpans n = some m)
    (hown : upperCodes n = [n]) :
    m.isValidChar ∧ m ≠ '/'.toNat ∧ capital (Char.ofNat m) = spelling (Char.ofNat n) := by
  obtain ⟨s, hs, hf, hl, hstep, rfl⟩ := exists_span_of_lookup h
  rcases lowerSpans_undone s hs with ⟨u, hu, hundoes⟩ | heach
  · have hback := hundoes.lookupSpan_upperSpans hu hf hl hstep
    generalize s.image + (n - s.first) = m at hback
    obtain ⟨_, hspan, -, himage⟩ := lookupSpan_eq_some hback
    have himages : n ∈ imageCodes :=
      List.mem_append_left _ (List.mem_flatMap.2 ⟨_, hspan, himage⟩)
    refine ⟨isValidChar_of_lookup hback, ?_, ?_⟩
    · rintro rfl
      have hslash : lookupSpan upperSpans '/'.toNat = none := by decide
      rw [hslash] at hback
      cases hback
    · rw [capital_of_lookup_upperSpans hback, spelling_of_mem_imageCodes himages]
  · have hplace := heach ((n - s.first) / s.step) (List.mem_range.2 ?_)
    · rw [Nat.div_mul_cancel (Nat.dvd_of_mod_eq_zero hstep), Nat.add_sub_cancel' hf] at hplace
      exact hplace hown
    · have := Nat.div_le_div_right (c := s.step) (show n - s.first ≤ s.last - s.first by omega)
      omega

/-! ### Characters -/

theorem upperCodes_of_upperChar {c : Char} (h : upperChar c = [c]) :
    upperCodes c.toNat = [c.toNat] := by
  obtain ⟨m, hm, hc⟩ := List.map_eq_singleton_iff.1 h
  rcases toNat_ofNat m with hn | hzero
  · rw [hm, ← hc, hn]
  · rw [hc] at hzero
    subst hzero
    decide

/-- **A letter in upper case is read back from its lower case**, up to its spelling. -/
theorem capital_lowerChar {c : Char} (h : upperChar c = [c]) (before after : List Char) :
    ((lowerChar before c after).flatMap escapeSlash).flatMap capital = spelling c := by
  unfold lowerChar
  by_cases hsigma : c = 'Σ'
  · subst hsigma
    rw [if_pos rfl]
    split_ifs <;> decide +kernel
  rw [if_neg hsigma]
  by_cases hdotted : c = 'İ'
  · subst hdotted
    rw [if_pos rfl]
    decide +kernel
  rw [if_neg hdotted]
  cases hlower : lookupSpan lowerSpans c.toNat with
  | some m =>
    obtain ⟨hvalid, hslash, hback⟩ := capital_of_lookup hlower (upperCodes_of_upperChar h)
    have hne : Char.ofNat m ≠ '/' := by
      intro he
      apply hslash
      rw [← he, toNat_ofNat_of_isValidChar hvalid]
    rw [Char.ofNat_toNat] at hback
    simp [escapeSlash, hne, hback]
  | none =>
    rw [Option.getD_none, Char.ofNat_toNat]
    by_cases hslash : c = '/'
    · subst hslash
      decide +kernel
    have hplain : c ≠ 'ß' := by
      rintro rfl
      revert h
      decide
    have hspelt : spelling c = [c] := by
      apply spelling_of_not_mem
      intro hmem
      -- the other characters that have a spelling are in the table
      have hmapped : ∀ n ∈ speltCodes, n = '/'.toNat ∨ n = 'İ'.toNat ∨
          lookupSpan lowerSpans n ≠ none := by
        decide +kernel
      rcases hmapped _ hmem with hcode | hcode | hcode
      · exact hslash (Char.toNat_inj.1 hcode)
      · exact hdotted (Char.toNat_inj.1 hcode)
      · exact hcode hlower
    simp [escapeSlash, hslash, capital, hplain, h, hspelt]

/-! ### Texts -/

/-- A text with the characters that have a spelling in their spellings. -/
def spelt (cs : List Char) : List Char :=
  cs.flatMap spelling

/-- **A text in upper case is read back from its lower case with escaped slashes**, up to its
spelling. -/
theorem capital_lower {cs : List Char} (h : ∀ c ∈ cs, upperChar c = [c]) :
    ((lower cs).flatMap escapeSlash).flatMap capital = spelt cs := by
  have hfrom : ∀ before, ((lowerFrom before cs).flatMap escapeSlash).flatMap capital =
      spelt cs := by
    induction cs with
    | nil => intro before; rfl
    | cons c cs ih =>
      intro before
      have hhead := capital_lowerChar (h c List.mem_cons_self) before cs
      have htail := ih (fun d hd => h d (List.mem_cons_of_mem _ hd)) (c :: before)
      rw [lowerFrom, List.flatMap_append, List.flatMap_append, hhead, htail]
      rfl
  exact hfrom []

/-- One text has a character that the other spells, where the two differ first. -/
def SpellsOut (x y : List Char) : Prop :=
  ∃ s ∈ spellings, ∃ front rest rest', x = front ++ s.1 :: rest ∧ y = front ++ (s.2 ++ rest')

/-- Two texts differ first where one spells a character of the other. -/
def SpeltApart (x y : List Char) : Prop :=
  SpellsOut x y ∨ SpellsOut y x

theorem SpellsOut.ne {x y : List Char} (h : SpellsOut x y) : x ≠ y := by
  obtain ⟨s, hs, front, rest, rest', rfl, rfl⟩ := h
  have hall : ∀ s ∈ spellings, s.2.head?.any (· ≠ s.1) := by decide
  intro heq
  have htail := List.append_cancel_left heq
  have hhead := hall s hs
  cases hspelt : s.2 with
  | nil => simp [hspelt] at hhead
  | cons d ds =>
    rw [hspelt, List.cons_append] at htail
    simp [hspelt, (List.cons.inj htail).1] at hhead

/-- Texts that are spelt apart differ. -/
theorem SpeltApart.ne {x y : List Char} (h : SpeltApart x y) : x ≠ y := by
  rcases h with h | h
  · exact h.ne
  · exact h.ne.symm

theorem SpellsOut.cons {x y : List Char} (h : SpellsOut x y) (c : Char) :
    SpellsOut (c :: x) (c :: y) := by
  obtain ⟨s, hs, front, rest, rest', rfl, rfl⟩ := h
  exact ⟨s, hs, c :: front, rest, rest', rfl, rfl⟩

/-- A character is spelt as itself, unless it has a spelling. -/
theorem spelling_cases (c : Char) : (c, spelling c) ∈ spellings ∨ spelling c = [c] := by
  cases h : spellings.lookup c with
  | none =>
    right
    rw [spelling, h, Option.getD_none]
  | some t =>
    left
    obtain ⟨before, after, heq, -⟩ := List.lookup_eq_some_iff.1 h
    rw [spelling, h, Option.getD_some, heq]
    simp

theorem spelling_ne_nil (c : Char) : spelling c ≠ [] := by
  rcases spelling_cases c with hspelt | hself
  · have hall : ∀ s ∈ spellings, s.2 ≠ [] := by decide
    exact hall _ hspelt
  · simp [hself]

/-- What starts no spelling is there in a text if it is there in its spelling. -/
theorem exists_append_of_spelt {t x y : List Char} (h : spelt y = t ++ spelt x)
    (ht : ∀ d ∈ t, ∀ s ∈ spellings, s.2.head? ≠ some d) : ∃ rest, y = t ++ rest := by
  induction t generalizing y with
  | nil => exact ⟨y, rfl⟩
  | cons d t ih =>
    cases y with
    | nil => simp [spelt] at h
    | cons e y =>
      rw [spelt, List.flatMap_cons] at h
      rcases spelling_cases e with hspelt | hself
      · have hhead := congrArg List.head? h
        rw [List.head?_append_of_ne_nil _ (spelling_ne_nil e)] at hhead
        exact absurd hhead (ht d List.mem_cons_self _ hspelt)
      · rw [hself] at h
        obtain ⟨rfl, htail⟩ := List.cons.inj h
        obtain ⟨rest, rfl⟩ := ih htail fun d hd => ht d (List.mem_cons_of_mem _ hd)
        exact ⟨rest, rfl⟩

/-- A character with a spelling and one without it share their first spelt character only where
the whole spelling stands. -/
theorem spellsOut_of_spelt {c d : Char} {x y : List Char} (hc : (c, spelling c) ∈ spellings)
    (hd : spelling d = [d]) (h : spelt (c :: x) = spelt (d :: y)) :
    SpellsOut (c :: x) (d :: y) := by
  have htails : ∀ s ∈ spellings, ∀ s' ∈ spellings, s.2.tail.all (s'.2.head? ≠ some ·) := by
    decide
  obtain ⟨e, t, hspelling⟩ := List.exists_cons_of_ne_nil (spelling_ne_nil c)
  simp only [spelt, List.flatMap_cons, hd, hspelling, List.cons_append, List.nil_append] at h
  obtain ⟨rfl, hrest⟩ := List.cons.inj h
  have ht : ∀ d ∈ t, ∀ s ∈ spellings, s.2.head? ≠ some d := by
    intro d hd s hs
    have htail := htails _ hc s hs
    rw [hspelling, List.tail_cons, List.all_eq_true] at htail
    exact of_decide_eq_true (htail d hd)
  obtain ⟨rest, rfl⟩ := exists_append_of_spelt hrest.symm ht
  exact ⟨_, hc, [], x, rest, rfl, by rw [hspelling]; rfl⟩

/-- **Texts with one spelling are the same text**, or are spelt apart. -/
theorem eq_or_speltApart {x y : List Char} (h : spelt x = spelt y) : x = y ∨ SpeltApart x y := by
  induction x generalizing y with
  | nil =>
    cases y with
    | nil => exact .inl rfl
    | cons d y => simp [spelt, spelling_ne_nil] at h
  | cons c x ih =>
    cases y with
    | nil => simp [spelt, spelling_ne_nil] at h
    | cons d y =>
      by_cases hcd : c = d
      · subst hcd
        rcases ih (List.append_cancel_left h) with rfl | hout | hin
        · exact .inl rfl
        · exact .inr (.inl (hout.cons c))
        · exact .inr (.inr (hin.cons c))
      right
      rcases spelling_cases c with hc | hc <;> rcases spelling_cases d with hd | hd
      · -- no two spellings start alike
        have hheads : ∀ s ∈ spellings, ∀ s' ∈ spellings, s.2.head? = s'.2.head? → s.1 = s'.1 := by
          decide
        have hhead := congrArg List.head? h
        rw [spelt, spelt, List.flatMap_cons, List.flatMap_cons,
          List.head?_append_of_ne_nil _ (spelling_ne_nil c),
          List.head?_append_of_ne_nil _ (spelling_ne_nil d)] at hhead
        exact absurd (hheads _ hc _ hd hhead) hcd
      · exact .inl (spellsOut_of_spelt hc hd h)
      · exact .inr (spellsOut_of_spelt hd hc h.symm)
      · rw [spelt, spelt, List.flatMap_cons, List.flatMap_cons, hc, hd] at h
        exact absurd (List.cons.inj h).1 hcd

/-- **Texts in upper case with one lower case and one escape** are the same text, or are spelt
apart. -/
theorem eq_or_speltApart_of_lower {x y : List Char} (hx : ∀ c ∈ x, upperChar c = [c])
    (hy : ∀ c ∈ y, upperChar c = [c])
    (h : (lower x).flatMap escapeSlash = (lower y).flatMap escapeSlash) :
    x = y ∨ SpeltApart x y := by
  apply eq_or_speltApart
  rw [← capital_lower hx, ← capital_lower hy, h]

end EditLock.Text
