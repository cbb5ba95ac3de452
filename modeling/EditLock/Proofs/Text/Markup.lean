/-
# Reading markup back

Markup in which the five special characters stand as entities is read back as the text that was
written into it, whatever that text looks like: no entity can be written by accident, because every
ampersand is written as one. So the text ends no tag and no attribute, and a reader of markup finds
it whole in the place where it was put.

Key definitions: `entities`, `unescape`, `Markup.Token`, `Markup.scan`, `Markup.tokens`,
`Markup.attributeTexts`, `Markup.textAfter?`, `Markup.IsApart`.
Key theorems: `isPlainMarkup_escapeMarkup`, `unescape_escapeMarkup`, `Markup.scan_trans`,
`Markup.scan_escaped_text`, `Markup.scan_escaped_value`, `Markup.markupAfter?_mark`.
-/
import Mathlib.Data.List.Infix
import EditLock.Proofs.Text.Cut
import EditLock.Text.Markup

namespace EditLock.Text

/-! ### Entities -/

/-- The entities, each with the character for which it stands. -/
def entities : List (List Char × Char) :=
  [("&amp;".toList, '&'), ("&lt;".toList, '<'), ("&gt;".toList, '>'), ("&quot;".toList, '"'),
   ("&apos;".toList, '\'')]

/-- The character for which the entity at the start of a text stands, and what follows it. -/
def entityHere? (cs : List Char) : Option (Char × List Char) :=
  entities.findSome? fun e => (stripPrefix? e.1 cs).map fun rest => (e.2, rest)

theorem length_of_entityHere? {cs rest : List Char} {c : Char}
    (h : entityHere? cs = some (c, rest)) : rest.length < cs.length := by
  obtain ⟨e, he, hfound⟩ := List.exists_of_findSome?_eq_some h
  obtain ⟨after, hstrip, hpair⟩ := Option.map_eq_some_iff.1 hfound
  obtain rfl : after = rest := (Prod.mk.inj hpair).2
  have hlong : ∀ e ∈ entities, 0 < e.1.length := by decide
  have hpos := hlong e he
  rw [stripPrefix?_eq_some_iff.1 hstrip, List.length_append]
  omega

/-- Markup with its entities replaced from left to right. -/
def unescapeChars (cs : List Char) : List Char :=
  match cs with
  | [] => []
  | c :: rest =>
    match h : entityHere? (c :: rest) with
    | some (d, after) =>
      have : after.length < (c :: rest).length := length_of_entityHere? h
      d :: unescapeChars after
    | none => c :: unescapeChars rest
termination_by cs.length
decreasing_by
  · exact this
  · exact Nat.lt_succ_self rest.length

/-- The text for which markup stands. -/
def unescape (s : String) : String :=
  String.ofList (unescapeChars s.toList)

/-- Markup in which nothing ends a tag or an attribute, and every ampersand starts an entity. -/
structure IsPlainMarkup (s : String) : Prop where
  unmarked : ∀ c ∈ ['<', '>', '"', '\''], c ∉ s.toList
  entity : ∀ before after, s.toList = before ++ '&' :: after →
    ∃ e ∈ entities, e.1 <+: '&' :: after

/-- A character is written as itself, unless there is an entity for it. -/
theorem markupChar_cases (c : Char) :
    (markupChar c, c) ∈ entities ∨ markupChar c = [c] ∧ c ∉ ['&', '<', '>', '"', '\''] := by
  unfold markupChar
  by_cases hamp : c = '&'
  · subst hamp; left; decide
  by_cases hlt : c = '<'
  · subst hlt; left; decide
  by_cases hgt : c = '>'
  · subst hgt; left; decide
  by_cases hquot : c = '"'
  · subst hquot; left; decide
  by_cases hapos : c = '\''
  · subst hapos; left; decide
  right
  simp [hamp, hlt, hgt, hquot, hapos]

theorem toList_escapeMarkup (s : String) :
    (escapeMarkup s).toList = s.toList.flatMap markupChar := by
  simp [escapeMarkup]

/-- An entity has one ampersand, at its start. -/
theorem eq_nil_of_entity {e : List Char × Char} (he : e ∈ entities) {before after : List Char}
    (h : e.1 = before ++ '&' :: after) : before = [] := by
  have htail : ∀ e ∈ entities, '&' ∉ e.1.tail := by decide
  cases before with
  | nil => rfl
  | cons c before =>
    have hmem := htail e he
    rw [h] at hmem
    simp at hmem

/-- **Escaped text is plain**: it has no character that means something in markup, but the
ampersands of its entities. -/
theorem isPlainMarkup_escapeMarkup (s : String) : IsPlainMarkup (escapeMarkup s) := by
  constructor
  · intro c hc hmem
    rw [toList_escapeMarkup, List.mem_flatMap] at hmem
    obtain ⟨d, -, hd⟩ := hmem
    rcases markupChar_cases d with hentity | ⟨hself, hplain⟩
    · have hall : ∀ e ∈ entities, e.1.all (· ∉ ['<', '>', '"', '\'']) := by decide
      have hnot := List.all_eq_true.1 (hall _ hentity) c hd
      exact of_decide_eq_true hnot hc
    · rw [hself, List.mem_singleton] at hd
      subst hd
      exact hplain (List.mem_cons_of_mem _ hc)
  · rw [toList_escapeMarkup]
    generalize s.toList = cs
    induction cs with
    | nil =>
      intro before after h
      simp at h
    | cons c cs ih =>
      intro before after h
      rw [List.flatMap_cons, List.append_eq_append_iff] at h
      -- the ampersand stands in what is written for a later character, or for this one
      rcases h with ⟨rest, -, hafter⟩ | ⟨rest, hhere, hafter⟩
      · exact ih rest after hafter
      cases rest with
      | nil => exact ih [] after hafter.symm
      | cons d rest =>
        obtain ⟨rfl, rfl⟩ := List.cons.inj hafter
        rcases markupChar_cases c with hentity | ⟨hself, hplain⟩
        · obtain rfl : before = [] := eq_nil_of_entity hentity hhere
          refine ⟨_, hentity, ?_⟩
          rw [hhere, List.nil_append]
          exact ⟨cs.flatMap markupChar, rfl⟩
        · have hamp : '&' ∈ markupChar c := by simp [hhere]
          rw [hself, List.mem_singleton] at hamp
          subst hamp
          exact absurd List.mem_cons_self hplain

theorem unescapeChars_entity {e : List Char × Char} (he : e ∈ entities) (rest : List Char) :
    unescapeChars (e.1 ++ rest) = e.2 :: unescapeChars rest := by
  simp only [entities, List.mem_cons, List.not_mem_nil, or_false] at he
  rcases he with rfl | rfl | rfl | rfl | rfl
  all_goals
    rw [unescapeChars.eq_def]
    rfl

theorem unescapeChars_plain {c : Char} (hc : c ≠ '&') (rest : List Char) :
    unescapeChars (c :: rest) = c :: unescapeChars rest := by
  have hnone : entityHere? (c :: rest) = none := by
    rw [entityHere?, List.findSome?_eq_none_iff]
    intro e he
    simp only [entities, List.mem_cons, List.not_mem_nil, or_false] at he
    have hne : '&' ≠ c := fun h => hc h.symm
    rcases he with rfl | rfl | rfl | rfl | rfl <;> simp [stripPrefix?, hne]
  rw [unescapeChars]
  split
  · rename_i h
    rw [hnone] at h
    cases h
  · rfl

/-- **Escaped text is read back**, even where it looks like an entity. -/
theorem unescape_escapeMarkup (s : String) : unescape (escapeMarkup s) = s := by
  have hchars : ∀ cs : List Char, unescapeChars (cs.flatMap markupChar) = cs := by
    intro cs
    induction cs with
    | nil =>
      rw [unescapeChars.eq_def]
      rfl
    | cons c cs ih =>
      rw [List.flatMap_cons]
      rcases markupChar_cases c with hentity | ⟨hself, hplain⟩
      · rw [unescapeChars_entity hentity, ih]
      · have hamp : c ≠ '&' := by
          rintro rfl
          exact hplain List.mem_cons_self
        rw [hself, List.singleton_append, unescapeChars_plain hamp, ih]
  rw [unescape, toList_escapeMarkup, hchars, String.ofList_toList]

/-! ### A reader of markup -/

namespace Markup

/-- Where a reader stands in markup, with what it has read of the piece in which it is. -/
inductive Place where
  | text (read : List Char)
  | tag (read : List Char)
  /-- Between the attributes of a tag. -/
  | between
  | name (read : List Char)
  /-- Between the name of an attribute and the quote that opens its value. -/
  | equals (name : List Char)
  | value (name : List Char) (quote : Char) (read : List Char)
deriving Repr, DecidableEq

/-- What a reader finds: a text between two tags, the name of a tag, with a slash in front where it
is an end tag, or an attribute. Texts and values are as they are written. -/
inductive Token where
  | text (content : String)
  | tag (name : String)
  | attribute (name value : String)
deriving Repr, DecidableEq

/-- Reads one character: what it ends, and where the reader stands then. -/
def step : Place → Char → List Token × Place
  | .text read, c =>
    if c = '<' then ([.text (String.ofList read)], .tag [])
    else ([], .text (read ++ [c]))
  | .tag read, c =>
    if c = '>' then ([.tag (String.ofList read)], .text [])
    else if c.isWhitespace then ([.tag (String.ofList read)], .between)
    else ([], .tag (read ++ [c]))
  | .between, c =>
    if c = '>' then ([], .text [])
    else if c.isWhitespace then ([], .between)
    else ([], .name [c])
  | .name read, c =>
    if c = '>' then ([], .text [])
    else if c = '=' then ([], .equals read)
    else ([], .name (read ++ [c]))
  | .equals name, c =>
    if c = '"' ∨ c = '\'' then ([], .value name c []) else ([], .equals name)
  | .value name quote read, c =>
    if c = quote then ([.attribute (String.ofList name) (String.ofList read)], .between)
    else ([], .value name quote (read ++ [c]))

/-- Reads on from a place. -/
def scan : Place → List Char → List Token × Place
  | p, [] => ([], p)
  | p, c :: cs => ((step p c).1 ++ (scan (step p c).2 cs).1, (scan (step p c).2 cs).2)

/-- What markup consists of. -/
def tokens (markup : String) : List Token :=
  (scan (.text []) markup.toList).1

/-- Reading one part of markup after another. -/
theorem scan_trans {p q r : Place} {cs ds : List Char} {ts us : List Token}
    (hfirst : scan p cs = (ts, q)) (hthen : scan q ds = (us, r)) :
    scan p (cs ++ ds) = (ts ++ us, r) := by
  induction cs generalizing p ts with
  | nil =>
    obtain ⟨rfl, rfl⟩ := Prod.mk.inj hfirst
    exact hthen
  | cons c cs ih =>
    obtain ⟨rfl, hplace⟩ := Prod.mk.inj hfirst
    have hrest := ih (p := (step p c).2) (Prod.ext rfl hplace)
    rw [List.cons_append, scan, hrest, List.append_assoc]

/-- Text without a start of a tag is text. -/
theorem scan_text {cs : List Char} (h : '<' ∉ cs) (read : List Char) :
    scan (.text read) cs = ([], .text (read ++ cs)) := by
  induction cs generalizing read with
  | nil => simp [scan]
  | cons c cs ih =>
    obtain ⟨hc, hcs⟩ := not_or.1 (mt List.mem_cons.2 h)
    simp [scan, step, Ne.symm hc, ih hcs]

/-- A value without its quote is a value. -/
theorem scan_value {cs : List Char} {quote : Char} (h : quote ∉ cs) (name read : List Char) :
    scan (.value name quote read) cs = ([], .value name quote (read ++ cs)) := by
  induction cs generalizing read with
  | nil => simp [scan]
  | cons c cs ih =>
    obtain ⟨hc, hcs⟩ := not_or.1 (mt List.mem_cons.2 h)
    simp [scan, step, Ne.symm hc, ih hcs]

/-- **Escaped text ends where a tag starts**: the reader has found it then, and nothing else. -/
theorem scan_escaped_text (s : String) {cs : List Char} {ts : List Token} {q : Place}
    (htag : cs.head? = some '<') (h : scan (.tag []) cs.tail = (ts, q)) :
    scan (.text []) ((escapeMarkup s).toList ++ cs) = (.text (escapeMarkup s) :: ts, q) := by
  have hplain := (isPlainMarkup_escapeMarkup s).unmarked '<' (by decide)
  have htext := scan_text hplain []
  rw [List.nil_append] at htext
  have hopened : scan (.text (escapeMarkup s).toList) cs = (.text (escapeMarkup s) :: ts, q) := by
    rw [← List.cons_head?_tail htag]
    simp [scan, step, h]
  exact scan_trans htext hopened

/-- **Escaped text ends where its attribute ends.** -/
theorem scan_escaped_value (name s : String) {cs : List Char} {ts : List Token} {q : Place}
    (hquote : cs.head? = some '"') (h : scan .between cs.tail = (ts, q)) :
    scan (.value name.toList '"' []) ((escapeMarkup s).toList ++ cs) =
      (.attribute name (escapeMarkup s) :: ts, q) := by
  have hplain := (isPlainMarkup_escapeMarkup s).unmarked '"' (by decide)
  have hvalue := scan_value hplain name.toList []
  rw [List.nil_append] at hvalue
  have hclosed : scan (.value name.toList '"' (escapeMarkup s).toList) cs =
      (.attribute name (escapeMarkup s) :: ts, q) := by
    rw [← List.cons_head?_tail hquote]
    simp [scan, step, h]
  exact scan_trans hvalue hclosed

/-- The tags of markup. -/
def tags (markup : String) : List String :=
  (tokens markup).filterMap fun
    | .tag name => some name
    | _ => none

/-- The texts for which the values of the attributes of a name stand. -/
def attributeTexts (name markup : String) : List String :=
  (tokens markup).filterMap fun
    | .attribute n value => if n = name then some (unescape value) else none
    | _ => none

/-- The markup between the leftmost place where a mark stands and the next start of a tag. -/
def markupAfter? (mark : List Char) : List Char → Option (List Char)
  | [] => none
  | c :: rest =>
    match stripPrefix? mark (c :: rest) with
    | some after => if '<' ∈ after then some (after.takeWhile (· ≠ '<')) else none
    | none => markupAfter? mark rest

/-- The text for which the markup after a mark stands. -/
def textAfter? (mark markup : String) : Option String :=
  (markupAfter? mark.toList markup.toList).map fun cs => unescape (String.ofList cs)

/-- A mark does not start within a text, nor end beyond it. -/
def IsApart (mark cs : List Char) : Prop :=
  ∀ tail ∈ cs.tails, tail ≠ [] → ¬ mark <+: tail ∧ ¬ tail <+: mark

instance (mark cs : List Char) : Decidable (IsApart mark cs) :=
  inferInstanceAs (Decidable (∀ tail ∈ cs.tails, tail ≠ [] → ¬ mark <+: tail ∧ ¬ tail <+: mark))

theorem markupAfter?_apart {mark cs : List Char} (h : IsApart mark cs) (rest : List Char) :
    markupAfter? mark (cs ++ rest) = markupAfter? mark rest := by
  induction cs with
  | nil => rfl
  | cons c cs ih =>
    have htail : IsApart mark cs := fun tail htail =>
      h tail ((List.mem_tails _ _).2 (((List.mem_tails _ _).1 htail).trans (List.suffix_cons c cs)))
    have hnone : stripPrefix? mark (c :: (cs ++ rest)) = none := by
      obtain ⟨hwithin, hbeyond⟩ := h (c :: cs) (by simp) (by simp)
      by_contra hfound
      obtain ⟨after, hafter⟩ := Option.ne_none_iff_exists'.1 hfound
      have hmark : mark <+: (c :: cs) ++ rest := ⟨after, (stripPrefix?_eq_some_iff.1 hafter).symm⟩
      rcases List.prefix_or_prefix_of_prefix hmark (List.prefix_append (c :: cs) rest) with h | h
      · exact hwithin h
      · exact hbeyond h
    rw [List.cons_append, markupAfter?, hnone]
    exact ih htail

/-- No tag starts in escaped text. -/
theorem isApart_escapeMarkup {mark : List Char} (hmark : mark.head? = some '<') (s : String) :
    IsApart mark (escapeMarkup s).toList := by
  have hplain := (isPlainMarkup_escapeMarkup s).unmarked '<' (by decide)
  rw [← List.cons_head?_tail hmark]
  intro tail htail hne
  obtain ⟨d, tail, rfl⟩ := List.exists_cons_of_ne_nil hne
  have hd : d ∈ (escapeMarkup s).toList :=
    ((List.mem_tails _ _).1 htail).subset List.mem_cons_self
  have hdiff : d ≠ '<' := fun he => hplain (he ▸ hd)
  constructor
  · intro hwithin
    exact hdiff (List.cons_prefix_cons.1 hwithin).1.symm
  · intro hbeyond
    exact hdiff (List.cons_prefix_cons.1 hbeyond).1

/-- **Escaped text is found** where it follows a mark and a tag follows it. -/
theorem markupAfter?_mark {mark : List Char} (hmark : mark ≠ []) (s : String) {rest : List Char}
    (htag : rest.head? = some '<') :
    markupAfter? mark (mark ++ ((escapeMarkup s).toList ++ rest)) =
      some (escapeMarkup s).toList := by
  have hplain := (isPlainMarkup_escapeMarkup s).unmarked '<' (by decide)
  have hfound : stripPrefix? mark (mark ++ ((escapeMarkup s).toList ++ rest)) =
      some ((escapeMarkup s).toList ++ rest) :=
    stripPrefix?_eq_some_iff.2 rfl
  have hcut : ((escapeMarkup s).toList ++ rest).takeWhile (· ≠ '<') =
      (escapeMarkup s).toList := by
    apply takeWhile_append_head
    · intro c hc
      have hne : c ≠ '<' := fun he => hplain (he ▸ hc)
      simpa using hne
    · intro c hc
      simp [Option.some.inj (hc.symm.trans htag)]
  have hends : '<' ∈ (escapeMarkup s).toList ++ rest :=
    List.mem_append_right _ (List.mem_of_head? htag)
  obtain ⟨c, mark, rfl⟩ := List.exists_cons_of_ne_nil hmark
  rw [List.cons_append] at hfound ⊢
  rw [markupAfter?, hfound]
  exact (if_pos hends).trans (congrArg some hcut)

end Markup

end EditLock.Text
