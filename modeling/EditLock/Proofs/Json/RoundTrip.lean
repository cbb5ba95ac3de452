/-
# Values are read as they were written

The machine that reads a text passes over a written value as over a single word: wherever a value
may stand, reading one that was written leaves the machine where the whole value leaves it. So what
is read from the text of a value is the value. This needs every string in it to be a text, and
nothing of the order or the number of names.

Key definitions: `Json.Reading.finish`, `Json.Reading.Awaits`.
Key theorems: `Json.Reading.finish_writePretty`, `Json.read?_pretty`.
-/
import EditLock.Json.Reader
import EditLock.Proofs.Json.Word

namespace EditLock.Json

theorem separated_cons (separator piece : List Char) (pieces : List (List Char)) :
    separated separator (piece :: pieces) = piece ++ pieces.flatMap (separator ++ ·) := by
  induction pieces generalizing piece with
  | nil => simp [separated]
  | cons next pieces ih =>
    have hnext := ih next
    simp only [separated] at hnext ⊢
    rw [List.intersperse_cons_cons, List.flatten_cons, List.flatten_cons, hnext]
    simp

namespace Reading

/-- The machine at the end of a text. -/
def finish (r : Reading) (cs : List Char) : Option Reading :=
  (lex cs).bind r.run

/-- A value may stand here, and ends up on this stack. -/
def Awaits (r : Reading) (stack : List Frame) : Prop :=
  ∀ v, r.step (.value v) = some (push v stack) ∧ r.step .openArray = some (.firstItem stack) ∧
    r.step .openObject = some (.firstKey stack)

/-- A name may stand here, after these fields of an object. -/
def AwaitsKey (r : Reading) (fields : List (Option String × Json)) (stack : List Frame) : Prop :=
  ∀ name, r.step (.value (.string name)) = some (.colon fields name stack)

variable {r : Reading} {stack : List Frame} {fields : List (Option String × Json)}
  {rest : List Char}

theorem awaits_value (stack : List Frame) : (Reading.value stack).Awaits stack :=
  fun _ => ⟨rfl, rfl, rfl⟩

theorem awaits_firstItem (stack : List Frame) :
    (Reading.firstItem stack).Awaits (.array [] :: stack) :=
  fun _ => ⟨rfl, rfl, rfl⟩

theorem awaitsKey_firstKey (stack : List Frame) : (Reading.firstKey stack).AwaitsKey [] stack :=
  fun _ => rfl

theorem awaitsKey_nextKey (fields : List (Option String × Json)) (stack : List Frame) :
    (Reading.nextKey fields stack).AwaitsKey fields stack :=
  fun _ => rfl

/-! ### Word by word -/

theorem finish_word {t : Token} {cs : List Char} (h : lex cs = (lex rest).map (t :: ·)) :
    r.finish cs = (r.step t).bind fun r => r.finish rest := by
  unfold finish
  rw [h]
  cases lex rest with
  | none => cases r.step t <;> rfl
  | some ts => rfl

theorem finish_mark {c : Char} {t : Token} (h : mark? c = some t) :
    r.finish (c :: rest) = (r.step t).bind fun r => r.finish rest :=
  finish_word (scan_mark h rest)

theorem finish_value {v : Json} {cs : List Char} (h : lex cs = (lex rest).map (.value v :: ·))
    (hr : r.Awaits stack) : r.finish cs = (push v stack).finish rest := by
  rw [finish_word h, (hr v).1, Option.bind_some]

theorem finish_newline (level : Nat) : r.finish (newline level ++ rest) = r.finish rest := by
  have hblanks : ∀ n, r.finish (List.replicate n ' ' ++ rest) = r.finish rest := by
    intro n
    induction n with
    | zero => rfl
    | succ n ih => exact ih
  exact hblanks (2 * level)

theorem finish_key (s : String) (hr : r.AwaitsKey fields stack) :
    r.finish (writeString s ++ ':' :: ' ' :: rest) =
      (Reading.value (.object fields (some s) :: stack)).finish rest := by
  rw [finish_word (scan_writeString s _), hr (some s), Option.bind_some,
    finish_mark (t := .colon) rfl]
  rfl

/-! ### Whole values -/

theorem endsWord_separated {pieces : List (List Char)} {separator : List Char}
    (hrest : EndsWord rest) :
    EndsWord (pieces.flatMap (',' :: separator ++ ·) ++ rest) := by
  cases pieces with
  | nil => exact hrest
  | cons piece pieces =>
    intro c hc
    cases hc
    exact .inr rfl

theorem endsWord_newline (level : Nat) : EndsWord (newline level ++ rest) := by
  intro c hc
  cases hc
  exact .inl rfl

mutual

/-- **A written value is passed over as a single word.** -/
theorem finish_writePretty (level : Nat) : ∀ (v : Json) {r : Reading} {stack : List Frame}
    {rest : List Char}, v.isPlain = true → r.Awaits stack → EndsWord rest →
      r.finish (writePretty level v ++ rest) = (push v stack).finish rest
  | .null, _, _, _, hplain, hr, hrest => finish_value (scan_writeScalar rfl hplain hrest) hr
  | .bool _, _, _, _, hplain, hr, hrest => finish_value (scan_writeScalar rfl hplain hrest) hr
  | .integer _, _, _, _, hplain, hr, hrest => finish_value (scan_writeScalar rfl hplain hrest) hr
  | .decimal _ _ _, _, _, _, hplain, hr, hrest =>
    finish_value (scan_writeScalar rfl hplain hrest) hr
  | .string _, _, _, _, hplain, hr, hrest => finish_value (scan_writeScalar rfl hplain hrest) hr
  | .array [], _, _, _, _, hr, _ => by
    rw [writePretty, List.cons_append, finish_mark (t := .openArray) rfl, (hr .null).2.1,
      Option.bind_some]
    exact finish_mark (t := .closeArray) rfl
  | .array (v :: vs), r, stack, rest, hplain, hr, hrest => by
    obtain ⟨hv, hvs⟩ := Bool.and_eq_true_iff.1 hplain
    have hwritten : writePretty level (.array (v :: vs)) ++ rest = '[' :: (newline (level + 1) ++
        (writePretty (level + 1) v ++ ((prettyItems (level + 1) vs).flatMap
          (',' :: newline (level + 1) ++ ·) ++ (newline level ++ ']' :: rest)))) := by
      simp [writePretty, prettyItems, separated_cons]
    rw [hwritten, finish_mark (t := .openArray) rfl, (hr .null).2.1, Option.bind_some,
      finish_newline, finish_writePretty (level + 1) v hv (awaits_firstItem stack)
        (endsWord_separated (endsWord_newline level)), push,
      finish_prettyItems (level + 1) vs hvs (endsWord_newline level), finish_newline,
      finish_mark (t := .closeArray) rfl]
    simp [step]
  | .object [], _, _, _, _, hr, _ => by
    rw [writePretty, List.cons_append, finish_mark (t := .openObject) rfl, (hr .null).2.2,
      Option.bind_some]
    exact finish_mark (t := .closeObject) rfl
  | .object ((name, v) :: fs), r, stack, rest, hplain, hr, hrest => by
    obtain ⟨hfirst, hfs⟩ := Bool.and_eq_true_iff.1 hplain
    obtain ⟨hname, hv⟩ := Bool.and_eq_true_iff.1 hfirst
    obtain ⟨s, rfl⟩ := Option.isSome_iff_exists.1 hname
    have hwritten : writePretty level (.object ((some s, v) :: fs)) ++ rest =
        '\x7b' :: (newline (level + 1) ++ (writeString s ++ ':' :: ' ' ::
          (writePretty (level + 1) v ++ ((prettyFields (level + 1) fs).flatMap
            (',' :: newline (level + 1) ++ ·) ++ (newline level ++ '\x7d' :: rest))))) := by
      simp [writePretty, prettyFields, separated_cons]
    rw [hwritten, finish_mark (t := .openObject) rfl, (hr .null).2.2, Option.bind_some,
      finish_newline, finish_key s (awaitsKey_firstKey stack),
      finish_writePretty (level + 1) v hv (awaits_value _)
        (endsWord_separated (endsWord_newline level)), push,
      finish_prettyFields (level + 1) fs hfs (endsWord_newline level), finish_newline,
      finish_mark (t := .closeObject) rfl]
    simp [step]

/-- The later items of an array. -/
theorem finish_prettyItems (level : Nat) : ∀ (vs : List Json) {before : List Json}
    {stack : List Frame} {rest : List Char}, itemsPlain vs = true → EndsWord rest →
      (Reading.afterItem before stack).finish
          ((prettyItems level vs).flatMap (',' :: newline level ++ ·) ++ rest) =
        (Reading.afterItem (vs.reverse ++ before) stack).finish rest
  | [], _, _, _, _, _ => rfl
  | v :: vs, before, stack, rest, hplain, hrest => by
    obtain ⟨hv, hvs⟩ := Bool.and_eq_true_iff.1 hplain
    have hwritten : (prettyItems level (v :: vs)).flatMap (',' :: newline level ++ ·) ++ rest =
        ',' :: (newline level ++ (writePretty level v ++
          ((prettyItems level vs).flatMap (',' :: newline level ++ ·) ++ rest))) := by
      simp [prettyItems]
    have hcomma : (Reading.afterItem before stack).step .comma =
        some (.value (.array before :: stack)) := rfl
    rw [hwritten, finish_mark (t := .comma) rfl, hcomma, Option.bind_some, finish_newline,
      finish_writePretty level v hv (awaits_value _) (endsWord_separated hrest), push,
      finish_prettyItems level vs hvs hrest]
    simp

/-- The later fields of an object. -/
theorem finish_prettyFields (level : Nat) : ∀ (fs : List (Option String × Json))
    {before : List (Option String × Json)} {stack : List Frame} {rest : List Char},
      fieldsPlain fs = true → EndsWord rest →
      (Reading.afterField before stack).finish
          ((prettyFields level fs).flatMap (',' :: newline level ++ ·) ++ rest) =
        (Reading.afterField (fs.reverse ++ before) stack).finish rest
  | [], _, _, _, _, _ => rfl
  | (name, v) :: fs, before, stack, rest, hplain, hrest => by
    obtain ⟨hfirst, hfs⟩ := Bool.and_eq_true_iff.1 hplain
    obtain ⟨hname, hv⟩ := Bool.and_eq_true_iff.1 hfirst
    obtain ⟨s, rfl⟩ := Option.isSome_iff_exists.1 hname
    have hwritten : (prettyFields level ((some s, v) :: fs)).flatMap (',' :: newline level ++ ·) ++
        rest = ',' :: (newline level ++ (writeString s ++ ':' :: ' ' :: (writePretty level v ++
          ((prettyFields level fs).flatMap (',' :: newline level ++ ·) ++ rest)))) := by
      simp [prettyFields]
    have hcomma :
        (Reading.afterField before stack).step .comma = some (.nextKey before stack) := rfl
    rw [hwritten, finish_mark (t := .comma) rfl, hcomma, Option.bind_some, finish_newline,
      finish_key s (awaitsKey_nextKey before stack),
      finish_writePretty level v hv (awaits_value _) (endsWord_separated hrest), push,
      finish_prettyFields level fs hfs hrest]
    simp

end

end Reading

/-- **A written value is read back.** -/
theorem read?_pretty {v : Json} (h : v.isPlain = true) : read? v.pretty = some v := by
  have hends : EndsWord [] := fun c hc => by cases hc
  have hfinish : (lex (writePretty 0 v)).bind (Reading.run (.value [])) = some (.done v) := by
    have hpassed := Reading.finish_writePretty 0 v h (Reading.awaits_value []) hends
    rw [List.append_nil] at hpassed
    exact hpassed
  unfold read? pretty
  rw [String.toList_ofList, hfinish]

end EditLock.Json
