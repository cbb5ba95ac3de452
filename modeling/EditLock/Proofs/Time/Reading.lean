/-
# Reading what was written

An instant of a four-digit year, and no leap second, is read back from the text in which it was
written: each number is written with as many digits as are read (`Instant.digits?_padded`), the
fraction is as long as it needs to be, and date and time of day make up the second again.

Key definitions: `Instant.IsCivil`.
Key theorems: `Instant.digits?_padded`, `Instant.fraction?_writeFraction`, `Instant.ofFields?_fields`,
`Instant.readStrict?_toText`, `Instant.readLenient?_toTextZ`.
-/
import EditLock.Proofs.Time.Calendar
import EditLock.Time.Reading
import EditLock.Time.Writing

namespace EditLock

/-! ### Digits -/

theorem length_padded {width n : Nat} (h : n < 10 ^ width) (hw : 0 < width) :
    (padded width n).length = width := by
  have hlength := (Nat.length_toDigits_le_iff (by decide) hw).2 h
  simp only [padded, List.length_append, List.length_replicate]
  omega

theorem isDigit_of_mem_padded {width n : Nat} {c : Char} (h : c ∈ padded width n) :
    c.isDigit = true := by
  rcases List.mem_append.1 h with hzero | hdigit
  · rw [List.eq_of_mem_replicate hzero]
    decide
  · exact Nat.isDigit_of_mem_toDigits (by decide) (by decide) hdigit

namespace Instant

theorem decimalValue_eq (ds : List Char) : decimalValue ds = Nat.ofDigitChars 10 ds 0 := by
  rw [Nat.ofDigitChars_eq_foldl]
  simp only [decimalValue, Nat.mul_comm]

theorem decimalValue_padded (width n : Nat) : decimalValue (padded width n) = n := by
  rw [decimalValue_eq, padded, Nat.ofDigitChars_append, Nat.ofDigitChars_replicate_zero, Nat.mul_zero,
    Nat.ofDigitChars_ten_toDigits]

/-- Digits come to an end before this. -/
def EndsDigits (rest : List Char) : Prop :=
  ∀ c, rest.head? = some c → c.isDigit = false

theorem EndsDigits.takeWhile {rest : List Char} (h : EndsDigits rest) :
    rest.takeWhile Char.isDigit = [] := by
  cases rest with
  | nil => rfl
  | cons c rest => simp [h c rfl]

theorem EndsDigits.dropWhile {rest : List Char} (h : EndsDigits rest) :
    rest.dropWhile Char.isDigit = rest := by
  cases rest with
  | nil => rfl
  | cons c rest => simp [h c rfl]

theorem EndsDigits.take {rest : List Char} (h : EndsDigits rest) (n : Nat) :
    EndsDigits (rest.take n) := by
  cases rest with
  | nil => simpa using h
  | cons c rest =>
    cases n with
    | zero => exact nofun
    | succ n => exact h

theorem takeWhile_padded_append {width n : Nat} {rest : List Char} (h : EndsDigits rest) :
    (padded width n ++ rest).takeWhile Char.isDigit = padded width n := by
  rw [List.takeWhile_append_of_pos fun c hc => isDigit_of_mem_padded hc, h.takeWhile]
  exact List.append_nil _

/-- A number that fills its width is read back, whatever follows. -/
theorem digits?_padded {least width n : Nat} (hleast : least ≤ width) (hw : 0 < width)
    (h : n < 10 ^ width) (rest : List Char) :
    digits? least width (padded width n ++ rest) = some (n, rest) := by
  have hlength := length_padded h hw
  have htake : (padded width n ++ rest).take width = padded width n := List.take_left' hlength
  have hdigits : (padded width n).takeWhile Char.isDigit = padded width n := by
    have hends : EndsDigits [] := nofun
    simpa using takeWhile_padded_append (n := n) (h := hends)
  have hdrop : (padded width n ++ rest).drop width = rest := List.drop_left' hlength
  simp only [digits?, htake, hdigits, hlength, decimalValue_padded, hdrop]
  exact if_neg (by omega)

theorem char?_cons (c : Char) (rest : List Char) : char? c (c :: rest) = some rest :=
  if_pos rfl

theorem separator?_T (rest : List Char) : separator? ('T' :: rest) = some rest := rfl

/-! ### The fraction -/

/-- The fraction of a second is read back, in whichever length it was written. -/
theorem fraction?_of_padded {width n : Nat} {rest : List Char} (h : EndsDigits rest)
    (hw : 0 < width) (hwidth : width ≤ 9) (hn : n < 10 ^ width) :
    fraction? ('.' :: padded width n ++ rest) = some (n * 10 ^ (9 - width), rest) := by
  have hlength := length_padded hn hw
  have htake : ((padded width n ++ rest).take 9).takeWhile Char.isDigit = padded width n := by
    rw [List.take_append, List.take_of_length_le (by omega)]
    exact takeWhile_padded_append (h.take _)
  have hne : (padded width n).isEmpty = false := by
    rw [List.isEmpty_eq_false_iff, ← List.length_pos_iff]
    omega
  have hdrop : (padded width n ++ rest).drop width = rest := List.drop_left' hlength
  simp only [fraction?, List.cons_append, htake, hne, hlength, hdrop, h.dropWhile,
    decimalValue_padded]
  rfl

theorem fraction?_writeFraction {nanos : Nat} (h : nanos < 1000000000) {rest : List Char}
    (hrest : EndsDigits rest) (hpoint : rest.head? ≠ some '.') :
    fraction? (writeFraction nanos ++ rest) = some (nanos, rest) := by
  unfold writeFraction
  by_cases hzero : nanos = 0
  · rw [if_pos hzero, hzero, List.nil_append]
    unfold fraction?
    split
    · exact absurd rfl hpoint
    · rfl
  · rw [if_neg hzero]
    by_cases hmillis : nanos % 1000000 = 0
    · have hvalue : nanos / 1000000 * 10 ^ (9 - 3) = nanos := by omega
      rw [if_pos hmillis, fraction?_of_padded hrest (by decide) (by decide) (by omega), hvalue]
    · rw [if_neg hmillis]
      by_cases hmicros : nanos % 1000 = 0
      · have hvalue : nanos / 1000 * 10 ^ (9 - 6) = nanos := by omega
        rw [if_pos hmicros, fraction?_of_padded hrest (by decide) (by decide) (by omega), hvalue]
      · rw [if_neg hmicros, fraction?_of_padded hrest (by decide) (by decide) h]
        rw [Nat.sub_self, pow_zero, Nat.mul_one]

/-! ### Date and time of day -/

/-- An instant of the years 0 to 9999, and no leap second. -/
structure IsCivil (t : Instant) : Prop where
  year_nonneg : 0 ≤ t.date.year
  year_le : t.date.year ≤ 9999
  nanos_lt : t.nanos < 1000000000

/-- The fields of an instant in universal time. -/
def fields (t : Instant) : Fields where
  date := t.date
  hour := t.secondOfDay / 3600
  minute := t.secondOfDay / 60 % 60
  second := t.secondOfDay % 60
  nanos := t.nanos
  offset := 0

variable {t : Instant}

theorem secondOfDay_lt (t : Instant) : t.secondOfDay < 86400 := by
  unfold secondOfDay
  omega

/-- The days of the years 0 to 9999 are well within those that a date can have. -/
theorem IsCivil.days (h : t.IsCivil) :
    dayRange.1 ≤ t.seconds / 86400 ∧ t.seconds / 86400 ≤ dayRange.2 := by
  have hrange : dayRange = (-96465292, 95026236) := by decide
  obtain ⟨era, year, day, hyear, hday, -, hdays, hdate⟩ := Date.ofDays_eq (t.seconds / 86400)
  have hmarch : era * 400 + year ≤ t.date.year ∧ t.date.year ≤ era * 400 + year + 1 := by
    rw [date, hdate]
    simp only [Date.ofYearDay]
    split <;> omega
  have hnonneg := h.year_nonneg
  have hle := h.year_le
  have hbefore : Date.daysBefore year ≤ 365 * 399 + 99 := by
    unfold Date.daysBefore
    omega
  rw [hrange]
  omega

/-- **An instant is that of its fields.** -/
theorem ofFields?_fields (h : t.IsCivil) : ofFields? t.fields = some t := by
  have hvalid : t.date.isValid = true := Date.isValid_ofDays _
  have hdays : t.date.toDays = t.seconds / 86400 := Date.toDays_ofDays _
  have hlt := t.secondOfDay_lt
  have hsecond : (t.secondOfDay : Int) = t.seconds % 86400 := by
    unfold secondOfDay
    omega
  have hinstant : ofDate t.date ((t.secondOfDay / 3600 : Nat) * 3600 +
      (t.secondOfDay / 60 % 60 : Nat) * 60 + (min (t.secondOfDay % 60) 59 : Nat) - 0) t.nanos = t := by
    have hseconds : t.date.toDays * 86400 + ((t.secondOfDay / 3600 : Nat) * 3600 +
        (t.secondOfDay / 60 % 60 : Nat) * 60 + (min (t.secondOfDay % 60) 59 : Nat) - 0 : Int) =
        t.seconds := by
      omega
    rw [ofDate, hseconds]
  have hnanos : (if t.secondOfDay % 60 = 60 then t.nanos + 1000000000 else t.nanos) = t.nanos :=
    if_neg (by omega)
  have hhour : t.secondOfDay / 3600 < 24 := by omega
  have hminute : t.secondOfDay / 60 % 60 < 60 := by omega
  have hinrange : ¬ (!t.date.isValid || decide (24 ≤ t.secondOfDay / 3600) ||
      decide (60 ≤ t.secondOfDay / 60 % 60) || decide (61 ≤ t.secondOfDay % 60) ||
      decide (86400 ≤ (0 : Int).natAbs) || decide (t.date.year < -262143) ||
      decide (262142 < t.date.year)) = true := by
    have hnonneg := h.year_nonneg
    have hle := h.year_le
    simp only [hvalid, Bool.or_eq_true, decide_eq_true_eq, Bool.not_true, Bool.false_eq_true,
      Int.natAbs_zero, false_or]
    omega
  unfold ofFields? fields
  simp only [hnanos, hinstant]
  rw [if_neg hinrange, if_pos h.days]

theorem writeLocal_eq (h : t.IsCivil) (zone : List Char) :
    t.writeLocal ++ zone = padded 4 t.date.year.toNat ++ '-' :: (padded 2 t.date.month ++
      '-' :: (padded 2 t.date.day ++ 'T' :: (padded 2 (t.secondOfDay / 3600) ++
        ':' :: (padded 2 (t.secondOfDay / 60 % 60) ++ ':' :: (padded 2 (t.secondOfDay % 60) ++
          (writeFraction t.nanos ++ zone)))))) := by
  have hleap : ¬ 1000000000 ≤ t.nanos := Nat.not_le.2 h.nanos_lt
  simp [writeLocal, writeYear, hleap, h.year_nonneg, h.year_le]

/-- The year has four digits. -/
theorem IsCivil.year_lt (h : t.IsCivil) : t.date.year.toNat < 10 ^ 4 := by
  have hle := h.year_le
  omega

theorem IsCivil.date_eq (h : t.IsCivil) :
    (⟨(t.date.year.toNat : Int), t.date.month, t.date.day⟩ : Date) = t.date := by
  rw [Int.toNat_of_nonneg h.year_nonneg]

/-- An instant is read back from date and time of day, if its offset is read as none. -/
theorem readStrict?_writeLocal (h : t.IsCivil) {zone : List Char}
    (hzone : offset? (char? ':') zone = some (0, [])) (hends : EndsDigits zone)
    (hpoint : zone.head? ≠ some '.') :
    readStrict? (String.ofList (t.writeLocal ++ zone)) = some t := by
  have hvalid : t.date.isValid = true := Date.isValid_ofDays _
  have ⟨hmonth, hday⟩ := Date.lt_of_isValid hvalid
  have hlt := t.secondOfDay_lt
  have hfraction := fraction?_writeFraction h.nanos_lt hends hpoint
  have hfields := ofFields?_fields h
  unfold readStrict?
  rw [String.toList_ofList, writeLocal_eq h zone]
  simp only [digits?_padded (Nat.le_refl 4) (by decide) h.year_lt,
    digits?_padded (Nat.le_refl 2) (by decide) hmonth,
    digits?_padded (Nat.le_refl 2) (by decide) hday,
    digits?_padded (Nat.le_refl 2) (by decide) (show t.secondOfDay / 3600 < 10 ^ 2 by omega),
    digits?_padded (Nat.le_refl 2) (by decide) (show t.secondOfDay / 60 % 60 < 10 ^ 2 by omega),
    digits?_padded (Nat.le_refl 2) (by decide) (show t.secondOfDay % 60 < 10 ^ 2 by omega),
    char?_cons, separator?_T, hfraction, hzone, Option.bind_eq_bind, Option.bind_some,
    List.isEmpty_nil, if_true, h.date_eq]
  exact hfields

/-- **A written instant is read back.** -/
theorem readStrict?_toText (h : t.IsCivil) : readStrict? t.toText = some t :=
  readStrict?_writeLocal h rfl (by intro c hc; cases hc; rfl) (by simp)

/-! ### The lenient reader -/

theorem isBlank_of_isDigit {c : Char} (h : c.isDigit = true) : Text.isBlank c = false := by
  have hrange : 48 ≤ c.toNat ∧ c.toNat ≤ 57 := by
    simpa [Char.isDigit, UInt32.le_iff_toNat_le] using h
  simp [Text.isBlank, Text.inRanges, Text.blankRanges]
  omega

theorem trimStart_cons {c : Char} (h : Text.isBlank c = false) (rest : List Char) :
    Text.trimStart (c :: rest) = c :: rest := by
  simp [Text.trimStart, h]

/-- A written number begins with a digit. -/
theorem exists_padded (width n : Nat) : ∃ c cs, padded width n = c :: cs ∧ c.isDigit = true := by
  cases hl : padded width n with
  | nil =>
    have hdigits : Nat.toDigits 10 n ≠ [] := Nat.toDigits_ne_nil
    exact absurd (List.append_eq_nil_iff.1 hl).2 hdigits
  | cons c cs =>
    have hmem : c ∈ padded width n := by
      rw [hl]
      exact List.mem_cons_self
    exact ⟨c, cs, rfl, isDigit_of_mem_padded hmem⟩

theorem trimStart_padded (width n : Nat) (rest : List Char) :
    Text.trimStart (padded width n ++ rest) = padded width n ++ rest := by
  obtain ⟨c, cs, hdigits, hc⟩ := exists_padded width n
  rw [hdigits]
  exact trimStart_cons (isBlank_of_isDigit hc) _

theorem year?_padded {n : Nat} (h : n < 10 ^ 4) (rest : List Char) :
    year? (padded 4 n ++ rest) = some ((n : Int), rest) := by
  have hdigits : digits? 1 4 (padded 4 n ++ rest) = some (n, rest) :=
    digits?_padded (by decide) (by decide) h rest
  obtain ⟨c, cs, hpadded, hc⟩ := exists_padded 4 n
  rw [hpadded] at hdigits ⊢
  rw [List.cons_append] at hdigits ⊢
  unfold year?
  split
  · rename_i heq
    cases heq
    cases hc
  · rename_i heq
    cases heq
    cases hc
  · rw [hdigits]
    rfl

theorem next?_padded {c : Char} (hc : Text.isBlank c = false) {n : Nat} (h : n < 10 ^ 2)
    (rest : List Char) : next? c (c :: (padded 2 n ++ rest)) = some (n, rest) := by
  rw [next?, trimStart_cons hc, char?_cons, Option.bind_some, trimStart_padded]
  exact digits?_padded (by decide) (by decide) h rest

/-- **A written instant is read back by the lenient reader too.** -/
theorem readLenient?_toTextZ (h : t.IsCivil) : readLenient? t.toTextZ = some t := by
  have hvalid : t.date.isValid = true := Date.isValid_ofDays _
  have ⟨hmonth, hday⟩ := Date.lt_of_isValid hvalid
  have hlt := t.secondOfDay_lt
  have hends : EndsDigits ['Z'] := by
    intro c hc
    cases hc
    rfl
  have hfraction := fraction?_writeFraction h.nanos_lt hends (by simp)
  have hzone : zone? (Text.trimStart ['Z']) = some (0, []) := rfl
  have hfields := ofFields?_fields h
  unfold readLenient? toTextZ
  rw [String.toList_ofList, writeLocal_eq h ['Z']]
  simp only [trimStart_padded, year?_padded h.year_lt,
    next?_padded (show Text.isBlank '-' = false by decide) hmonth,
    next?_padded (show Text.isBlank '-' = false by decide) hday, separator?_T,
    digits?_padded (show 1 ≤ 2 by decide) (by decide) (show t.secondOfDay / 3600 < 10 ^ 2 by omega),
    next?_padded (show Text.isBlank ':' = false by decide)
      (show t.secondOfDay / 60 % 60 < 10 ^ 2 by omega),
    next?_padded (show Text.isBlank ':' = false by decide)
      (show t.secondOfDay % 60 < 10 ^ 2 by omega),
    hfraction, hzone, Option.bind_eq_bind, Option.bind_some, h.date_eq]
  exact hfields

end Instant

end EditLock
