/-
# Dates and days

Every day has a date, which exists, and counting the days up to the date gives the day again. A day
of an era of 400 years falls into a century, a span of four years and a year; the last century and
the last year of a span are a day longer than the others, and so is the last span of the last
century (`exists_span`). From these the year of the era and the day of the year are read off.

Key definitions: `Date.ofYearDay`.
Key theorems: `Date.ofDays_eq`, `Date.isValid_ofDays`, `Date.toDays_ofDays`.
-/
import Mathlib.Tactic.IntervalCases
import EditLock.Time.Calendar

namespace EditLock.Date

/-- The date of a day of a year, both counted from 1 March. -/
def ofYearDay (year : Int) (dayOfYear : Nat) : Date :=
  let monthFromMarch := (5 * dayOfYear + 2) / 153
  let month := if monthFromMarch < 10 then monthFromMarch + 3 else monthFromMarch - 9
  { year := if month ≤ 2 then year + 1 else year
    month
    day := dayOfYear - (153 * monthFromMarch + 2) / 5 + 1 }

/-- The year of an era into which a day falls. -/
def yearOfEra (dayOfEra : Nat) : Nat :=
  (dayOfEra - dayOfEra / 1460 + dayOfEra / 36524 - dayOfEra / 146096) / 365

/-- The days of an era before a year of it. -/
def daysBefore (yearOfEra : Nat) : Nat :=
  365 * yearOfEra + yearOfEra / 4 - yearOfEra / 100

/-- The day of an era, of which there are 146097. -/
def dayOfEra (days : Int) : Nat :=
  ((days + 719468) - (days + 719468) / 146097 * 146097).toNat

theorem ofDays_eq_ofYearDay (days : Int) : ofDays days =
    ofYearDay ((days + 719468) / 146097 * 400 + yearOfEra (dayOfEra days))
      (dayOfEra days - daysBefore (yearOfEra (dayOfEra days))) := rfl

theorem dayOfEra_le (days : Int) : dayOfEra days ≤ 146096 := by
  unfold dayOfEra
  omega

theorem days_eq (days : Int) :
    days + 719468 = (days + 719468) / 146097 * 146097 + (dayOfEra days : Int) := by
  unfold dayOfEra
  omega

/-- The century, the span of four years, the year and the day into which a day of an era falls. -/
structure Span (dayOfEra century span year day : Nat) : Prop where
  century_le : century ≤ 3
  span_le : span ≤ 24
  year_le : year ≤ 3
  day_le : day ≤ 365
  /-- The last year of a span has a day more, but for the last span of a century. -/
  leap : day = 365 → year = 3 ∧ (span = 24 → century = 3)
  dayOfEra_eq : dayOfEra = 36524 * century + 1461 * span + 365 * year + day

theorem exists_span {dayOfEra : Nat} (h : dayOfEra ≤ 146096) :
    ∃ century span year day, Span dayOfEra century span year day := by
  obtain ⟨century, rest, hc, hrest, hera, hlong⟩ : ∃ century rest, century ≤ 3 ∧ rest ≤ 36524 ∧
      dayOfEra = 36524 * century + rest ∧ (rest = 36524 → century = 3) :=
    ⟨min (dayOfEra / 36524) 3, dayOfEra - 36524 * min (dayOfEra / 36524) 3, by omega, by omega,
      by omega, by omega⟩
  obtain ⟨year, day, hy, hd, hyear⟩ : ∃ year day, year ≤ 3 ∧ (day ≤ 364 ∨ day = 365 ∧ year = 3) ∧
      rest % 1461 = 365 * year + day :=
    ⟨min (rest % 1461 / 365) 3, rest % 1461 - 365 * min (rest % 1461 / 365) 3, by omega, by omega,
      by omega⟩
  refine ⟨century, rest / 1461, year, day, hc, by omega, hy, by omega, fun hday => ?_, by omega⟩
  have hlast : rest / 1461 = 24 → rest = 36524 := by omega
  exact ⟨by omega, fun hspan => hlong (hlast hspan)⟩

section Spans

variable {dayOfEra century span year day : Nat} (h : Span dayOfEra century span year day)

include h

theorem Span.yearOfEra : yearOfEra dayOfEra = 100 * century + 4 * span + year := by
  obtain ⟨hc, hs, hy, hd, hleap, hera⟩ := h
  unfold Date.yearOfEra
  have hlast : 1461 * span + 365 * year + day ≤ 36523 ∨ dayOfEra = 146096 := by omega
  rcases hlast with hinside | hend
  · have hcentury : dayOfEra / 36524 = century := by omega
    have hera' : dayOfEra / 146096 = 0 := by omega
    -- of the spans of 1460 days one more may be complete than there are leap years
    have hspan : dayOfEra / 1460 =
        25 * century + span + (24 * century + span + 365 * year + day) / 1460 := by omega
    have hone : (24 * century + span + 365 * year + day) / 1460 ≤ 1 := by omega
    have hfull : (24 * century + span + 365 * year + day) / 1460 = 1 →
        year = 3 ∧ 1460 ≤ 24 * century + span + 365 * year + day := by omega
    rw [hcentury, hera', hspan]
    omega
  · subst hend
    omega

theorem Span.daysBefore :
    daysBefore (100 * century + 4 * span + year) = 36524 * century + 1461 * span + 365 * year := by
  obtain ⟨hc, hs, hy, -, -, -⟩ := h
  have hleaps : (100 * century + 4 * span + year) / 4 = 25 * century + span := by omega
  have hcenturies : (100 * century + 4 * span + year) / 100 = century := by omega
  rw [Date.daysBefore, hleaps, hcenturies]
  omega

/-- The leap day is the last of a leap year, counted from 1 March. -/
theorem Span.isLeapYear (era : Int) (hday : day = 365) :
    isLeapYear (era * 400 + (100 * century + 4 * span + year : Nat) + 1) = true := by
  have ⟨hyear, hlast⟩ := h.leap hday
  have hs := h.span_le
  simp only [Date.isLeapYear, Bool.and_eq_true, Bool.or_eq_true, decide_eq_true_eq]
  subst hyear
  by_cases hspan : span = 24
  · have hcentury := hlast hspan
    omega
  · omega

end Spans

/-- **The parts of a date:** the era, the year of the era and the day of that year, with the leap
day only in leap years. -/
theorem ofDays_eq (days : Int) : ∃ (era : Int) (year day : Nat), year ≤ 399 ∧ day ≤ 365 ∧
    (day = 365 → isLeapYear (era * 400 + year + 1) = true) ∧
      days + 719468 = era * 146097 + (daysBefore year + day : Nat) ∧
      ofDays days = ofYearDay (era * 400 + year) day := by
  obtain ⟨century, span, year, day, hspan⟩ := exists_span (dayOfEra_le days)
  have hyear := hspan.yearOfEra
  have hbefore := hspan.daysBefore
  have hday : dayOfEra days = daysBefore (yearOfEra (dayOfEra days)) + day := by
    rw [hyear, hbefore]
    exact hspan.dayOfEra_eq
  refine ⟨(days + 719468) / 146097, yearOfEra (dayOfEra days), day, ?_, hspan.day_le, ?_, ?_, ?_⟩
  · have hc := hspan.century_le
    have hs := hspan.span_le
    have hy := hspan.year_le
    omega
  · rw [hyear]
    exact hspan.isLeapYear _
  · rw [← hday]
    exact days_eq days
  · have hrest : dayOfEra days - daysBefore (yearOfEra (dayOfEra days)) = day := by omega
    rw [ofDays_eq_ofYearDay, hrest]

theorem isValid_ofYearDay {year : Int} {dayOfYear : Nat} (h : dayOfYear ≤ 365)
    (hleap : dayOfYear = 365 → isLeapYear (year + 1) = true) :
    (ofYearDay year dayOfYear).isValid = true := by
  have hmonth : (5 * dayOfYear + 2) / 153 ≤ 11 := by omega
  unfold ofYearDay isValid
  generalize hm : (5 * dayOfYear + 2) / 153 = month at hmonth ⊢
  simp only [Bool.and_eq_true, decide_eq_true_eq]
  by_cases hfebruary : month = 11
  · subst hfebruary
    have hlength : dayOfYear - (153 * 11 + 2) / 5 + 1 ≤ daysInMonth (year + 1) 2 := by
      simp only [daysInMonth]
      by_cases hlast : dayOfYear = 365
      · rw [if_pos (hleap hlast)]
        omega
      · split <;> omega
    exact ⟨⟨⟨by decide, by decide⟩, by omega⟩, hlength⟩
  · -- the months from March to January have the same length in every year
    interval_cases month <;> simp [daysInMonth] <;> omega

theorem toDays_ofYearDay (era : Int) {year dayOfYear : Nat} (hy : year ≤ 399)
    (hd : dayOfYear ≤ 365) :
    (ofYearDay (era * 400 + year) dayOfYear).toDays =
      era * 146097 + (daysBefore year + dayOfYear : Nat) - 719468 := by
  have hera : (era * 400 + (year : Int)) / 400 = era := by omega
  have hrest : era * 400 + (year : Int) - era * 400 = year := by omega
  unfold daysBefore
  by_cases hsame : (5 * dayOfYear + 2) / 153 < 10
  · have hmarch : ¬ (5 * dayOfYear + 2) / 153 + 3 ≤ 2 := by omega
    have hback : ((5 * dayOfYear + 2) / 153 + 3 + 9) % 12 = (5 * dayOfYear + 2) / 153 := by omega
    simp only [ofYearDay, toDays, if_pos hsame, if_neg hmarch, hera, hrest, hback]
    omega
  · -- January and February belong to the year that began in March
    have hmarch : (5 * dayOfYear + 2) / 153 - 9 ≤ 2 := by omega
    have hyear : era * 400 + (year : Int) + 1 - 1 = era * 400 + year := by omega
    have hback : ((5 * dayOfYear + 2) / 153 - 9 + 9) % 12 = (5 * dayOfYear + 2) / 153 := by omega
    simp only [ofYearDay, toDays, if_neg hsame, if_pos hmarch, hyear, hera, hrest, hback]
    omega

/-- Month and day have two digits at most. -/
theorem lt_of_isValid {d : Date} (h : d.isValid = true) : d.month < 10 ^ 2 ∧ d.day < 10 ^ 2 := by
  have hlength : daysInMonth d.year d.month ≤ 31 := by
    unfold daysInMonth
    repeat' split
    all_goals omega
  simp only [isValid, Bool.and_eq_true, decide_eq_true_eq] at h
  omega

/-- **The date of a day exists.** -/
theorem isValid_ofDays (days : Int) : (ofDays days).isValid = true := by
  obtain ⟨era, year, day, -, hday, hleap, -, hdate⟩ := ofDays_eq days
  rw [hdate]
  exact isValid_ofYearDay hday hleap

/-- **The date of a day is that day's.** -/
theorem toDays_ofDays (days : Int) : (ofDays days).toDays = days := by
  obtain ⟨era, year, day, hyear, hday, -, hdays, hdate⟩ := ofDays_eq days
  rw [hdate, toDays_ofYearDay era hyear hday]
  omega

end EditLock.Date
