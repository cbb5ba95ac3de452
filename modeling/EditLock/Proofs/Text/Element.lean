/-
# Elements in texts

An element stands in a text where its opening tag, text in which no tag starts, and its closing tag
follow one another. There is only one text with which an element can start in a place, since it ends
where the next tag starts; so the leftmost place settles what is read. Empty elements, elements that
are not closed and parts of tags may stand anywhere before it. An opening tag does not overlap what
stands before it either: it starts with the only start of a tag that it has.

Key definitions: `openingTag`, `element`, `HasElement`, `IsFirstElement`.
Key theorems: `elementHere?_eq_some_iff`, `elementText?_eq_some_iff`, `elementText?_eq_none_iff`,
`IsFirstElement.text_eq`, `HasElement.isFirst`.
-/
import EditLock.Proofs.Text.Cut
import EditLock.Text.Markup

namespace EditLock.Text

/-- The tag that opens an element. -/
def openingTag (name : List Char) : List Char :=
  ['<'] ++ name ++ ['>']

/-- The tag that closes an element. -/
def closingTag (name : List Char) : List Char :=
  ['<', '/'] ++ name ++ ['>']

/-- An element as it is written, with a text between its tags. -/
def element (name text : List Char) : List Char :=
  openingTag name ++ (text ++ closingTag name)

/-- An element stands in a text, between what is before it and what is after it. No tag starts in
the text of the element; with `filled` it is not empty. -/
structure HasElement (name : List Char) (filled : Bool) (cs before text after : List Char) :
    Prop where
  written : cs = before ++ (element name text ++ after)
  unmarked : '<' ∉ text
  nonempty : filled = true → text ≠ []

/-- The element stands in the leftmost of all places. -/
structure IsFirstElement (name : List Char) (filled : Bool) (cs before text after : List Char) :
    Prop extends HasElement name filled cs before text after where
  leftmost : ∀ before' text' after', HasElement name filled cs before' text' after' →
    before.length ≤ before'.length

variable {name cs before text after before' text' after' : List Char} {filled : Bool} {c : Char}

/-! ### At the start of a text -/

/-- **What is read at the start of a text** is the text of the element that starts there. -/
theorem elementHere?_eq_some_iff :
    elementHere? name cs = some text ↔ '<' ∉ text ∧ element name text <+: cs := by
  have hopen : ∀ rest, stripPrefix? (['<'] ++ name ++ ['>']) cs = some rest ↔
      cs = openingTag name ++ rest := fun _ => stripPrefix?_eq_some_iff
  have hclose : ∀ ds rest, stripPrefix? (['<', '/'] ++ name ++ ['>']) ds = some rest ↔
      ds = closingTag name ++ rest := fun _ _ => stripPrefix?_eq_some_iff
  simp only [elementHere?, Option.bind_eq_bind, Option.bind_eq_some_iff, hopen, hclose,
    Option.some.injEq]
  constructor
  · rintro ⟨rest, rfl, after, hafter, rfl⟩
    have hrest : rest = rest.takeWhile (· ≠ '<') ++ (closingTag name ++ after) := by
      rw [← hafter, List.takeWhile_append_dropWhile]
    refine ⟨fun hmem => ?_, after, ?_⟩
    · simpa using List.mem_takeWhile_imp hmem
    · rw [element, List.append_assoc, List.append_assoc, ← hrest]
  · rintro ⟨hunmarked, after, rfl⟩
    have hpass : ∀ c ∈ text, decide (c ≠ '<') = true := fun c hc =>
      decide_eq_true fun he => hunmarked (he ▸ hc)
    refine ⟨text ++ (closingTag name ++ after), ?_, after, ?_, ?_⟩
    · simp [element]
    · rw [List.dropWhile_append_of_pos hpass]
      simp [closingTag]
    · exact takeWhile_append_head hpass (by simp [closingTag])

/-- What is read in a place is the text of the element that stands there. -/
theorem HasElement.elementHere? (h : HasElement name filled cs before text after) :
    elementHere? name (cs.drop before.length) = some text := by
  rw [elementHere?_eq_some_iff, h.written, List.drop_left]
  exact ⟨h.unmarked, List.prefix_append _ _⟩

/-- In one place there is one text. -/
theorem HasElement.text_eq (h : HasElement name filled cs before text after)
    (h' : HasElement name filled cs before' text' after')
    (hplace : before.length = before'.length) : text = text' := by
  have hread := h.elementHere?
  rw [hplace, h'.elementHere?] at hread
  exact (Option.some.inj hread).symm

theorem hasElement_start_iff :
    ((elementHere? name cs).filter fun t => !filled || !t.isEmpty) = some text ↔
      ∃ after, HasElement name filled cs [] text after := by
  have hfilled : (!filled || !text.isEmpty) = true ↔ (filled = true → text ≠ []) := by
    cases filled <;> simp
  rw [Option.filter_eq_some_iff, elementHere?_eq_some_iff, hfilled]
  constructor
  · rintro ⟨⟨hunmarked, after, hwritten⟩, hnonempty⟩
    exact ⟨after, hwritten.symm, hunmarked, hnonempty⟩
  · rintro ⟨after, hwritten, hunmarked, hnonempty⟩
    exact ⟨⟨hunmarked, after, hwritten.symm⟩, hnonempty⟩

theorem not_hasElement_start
    (h : ((elementHere? name cs).filter fun t => !filled || !t.isEmpty) = none) :
    ¬ HasElement name filled cs [] text after := by
  intro hhere
  rw [hasElement_start_iff.2 ⟨after, hhere⟩] at h
  cases h

/-! ### From left to right -/

theorem hasElement_cons_iff {d : Char} :
    HasElement name filled (c :: cs) (d :: before) text after ↔
      c = d ∧ HasElement name filled cs before text after := by
  constructor
  · rintro ⟨hwritten, hunmarked, hnonempty⟩
    obtain ⟨hc, hcs⟩ := List.cons.inj hwritten
    exact ⟨hc, hcs, hunmarked, hnonempty⟩
  · rintro ⟨rfl, hwritten, hunmarked, hnonempty⟩
    exact ⟨congrArg (c :: ·) hwritten, hunmarked, hnonempty⟩

theorem not_hasElement_nil : ¬ HasElement name filled [] before text after := by
  intro h
  have hnil := h.written
  simp [element, openingTag] at hnil

/-- In the leftmost place there is one text. -/
theorem IsFirstElement.text_eq (h : IsFirstElement name filled cs before text after)
    (h' : IsFirstElement name filled cs before' text' after') : text = text' :=
  h.toHasElement.text_eq h'.toHasElement
    (Nat.le_antisymm (h.leftmost _ _ _ h'.toHasElement) (h'.leftmost _ _ _ h.toHasElement))

/-- Where no element starts, the first one is that of the rest. -/
theorem IsFirstElement.cons
    (hstart : ∀ text after, ¬ HasElement name filled (c :: cs) [] text after)
    (h : IsFirstElement name filled cs before text after) :
    IsFirstElement name filled (c :: cs) (c :: before) text after := by
  refine ⟨hasElement_cons_iff.2 ⟨rfl, h.toHasElement⟩, fun before' text' after' h' => ?_⟩
  cases before' with
  | nil => exact absurd h' (hstart text' after')
  | cons d before' =>
    exact Nat.succ_le_succ (h.leftmost before' text' after' (hasElement_cons_iff.1 h').2)

/-- **Nothing is read just where no element stands.** -/
theorem elementText?_eq_none_iff :
    elementText? name filled cs = none ↔
      ∀ before text after, ¬ HasElement name filled cs before text after := by
  induction cs with
  | nil => simp [elementText?, not_hasElement_nil]
  | cons c cs ih =>
    rw [elementText?]
    split
    · rename_i text hstart
      obtain ⟨after, hhere⟩ := hasElement_start_iff.1 hstart
      simpa using ⟨[], text, after, hhere⟩
    · rename_i hstart
      rw [ih]
      constructor
      · intro hrest before text after h
        cases before with
        | nil => exact not_hasElement_start hstart h
        | cons d before => exact hrest before text after (hasElement_cons_iff.1 h).2
      · intro hall before text after h
        exact hall (c :: before) text after (hasElement_cons_iff.2 ⟨rfl, h⟩)

theorem exists_isFirstElement (h : elementText? name filled cs = some text) :
    ∃ before after, IsFirstElement name filled cs before text after := by
  induction cs with
  | nil => cases h
  | cons c cs ih =>
    rw [elementText?] at h
    split at h
    · rename_i t hstart
      obtain rfl := Option.some.inj h
      obtain ⟨after, hhere⟩ := hasElement_start_iff.1 hstart
      exact ⟨[], after, hhere, fun _ _ _ _ => Nat.zero_le _⟩
    · rename_i hstart
      obtain ⟨before, after, hfirst⟩ := ih h
      exact ⟨c :: before, after, hfirst.cons fun _ _ => not_hasElement_start hstart⟩

/-- **What is read is the text of the leftmost element.** -/
theorem elementText?_eq_some_iff :
    elementText? name filled cs = some text ↔
      ∃ before after, IsFirstElement name filled cs before text after := by
  refine ⟨exists_isFirstElement, ?_⟩
  rintro ⟨before, after, hfirst⟩
  cases hread : elementText? name filled cs with
  | none => exact absurd hfirst.toHasElement (elementText?_eq_none_iff.1 hread before text after)
  | some t =>
    obtain ⟨before', after', hfirst'⟩ := exists_isFirstElement hread
    rw [hfirst'.text_eq hfirst]

/-! ### After a text without the tag -/

/-- A mark that has its first character nowhere else does not start in a text where it does not
stand, whatever follows that text. -/
theorem length_le_of_not_infix {mark front back left right : List Char} (honce : c ∉ mark)
    (hfront : ¬ c :: mark <:+: front)
    (h : front ++ (c :: mark ++ back) = left ++ (c :: mark ++ right)) :
    front.length ≤ left.length := by
  rcases List.append_eq_append_iff.1 h with ⟨between, rfl, -⟩ | ⟨overlap, rfl, hmark⟩
  · simp
  -- the mark on the left starts in the text: it ends there, or the other mark starts within it
  rcases List.append_eq_append_iff.1 hmark with ⟨between, hover, -⟩ | ⟨more, hwithin, hback⟩
  · exact absurd ⟨left, between, by simp [hover]⟩ hfront
  cases more with
  | nil =>
    rw [List.append_nil] at hwithin
    exact absurd ⟨left, [], by simp [hwithin]⟩ hfront
  | cons d more =>
    obtain rfl : c = d := (List.cons.inj hback).1
    cases overlap with
    | nil => simp
    | cons e overlap =>
      have hmem : c ∈ mark := by
        rw [(List.cons.inj hwithin).2]
        simp
      exact absurd hmem honce

/-- **An element is the first one** if its opening tag does not stand in the text before it. -/
theorem HasElement.isFirst (h : HasElement name filled cs before text after)
    (hname : '<' ∉ name) (hbefore : ¬ openingTag name <:+: before) :
    IsFirstElement name filled cs before text after := by
  refine ⟨h, fun before' text' after' h' => ?_⟩
  have honce : '<' ∉ name ++ ['>'] := by simp [hname]
  have htags : before ++ ('<' :: (name ++ ['>']) ++ (text ++ closingTag name ++ after)) =
      before' ++ ('<' :: (name ++ ['>']) ++ (text' ++ closingTag name ++ after')) := by
    simpa [element, openingTag] using h.written.symm.trans h'.written
  exact length_le_of_not_infix honce hbefore htags

end EditLock.Text
