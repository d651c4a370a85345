import HomeCatalog.Calendar.Date
import Mathlib.Algebra.GroupWithZero.Nat
import Mathlib.Data.List.GetD
import Mathlib.Data.Nat.Find

/-!
# Dates and their ordinals

The ordinal of a date counts the days of the years and months before it, leap days with them.  So a
date and its ordinal tell each other: a date of the calendar can be read off its ordinal, and every
ordinal from one on is that of a date.
-/

namespace HomeCatalog.Calendar

/-- Whether a date is in the calendar. -/
structure Date.IsProper (date : Date) : Prop where
  year : 1 ≤ date.year
  month : 1 ≤ date.month
  day : 1 ≤ date.day
  day_le : date.day ≤ (monthLengths date.year).getD (date.month - 1) 0

/-- The number of days of a year. -/
def yearLength (year : Nat) : Nat :=
  (monthLengths year).sum

theorem isLeapYear_iff {year : Nat} :
    isLeapYear year = true ↔ year % 4 = 0 ∧ (year % 100 ≠ 0 ∨ year % 400 = 0) := by
  simp only [isLeapYear, Bool.and_eq_true, Bool.or_eq_true, beq_iff_eq, bne_iff_ne]

theorem yearLength_eq (year : Nat) : yearLength year = if isLeapYear year then 366 else 365 := by
  rw [yearLength, monthLengths]
  split <;> rfl

/-! ## Days of a year -/

section

variable {lengths : List Nat}

theorem foldl_add (lengths : List Nat) (start : Nat) :
    lengths.foldl Nat.add start = start + lengths.sum := by
  induction lengths generalizing start with
  | nil => rfl
  | cons length rest ih =>
      rw [List.foldl_cons, ih, List.sum_cons, Nat.add_eq, Nat.add_assoc]

/-- Counting through the months finds the day of a month with the days of all months before it. -/
theorem monthAndDay_sum_take {index day : Nat} (inMonth : day < lengths.getD index 0)
    (month : Nat) :
    monthAndDay lengths month ((lengths.take index).sum + day) = (month + index, day + 1) := by
  induction lengths generalizing index month with
  | nil => simp at inMonth
  | cons length rest ih =>
      cases index with
      | zero =>
          rw [List.getD_cons_zero] at inMonth
          simp [monthAndDay, inMonth]
      | succ index =>
          rw [List.getD_cons_succ] at inMonth
          have later : ¬length + (rest.take index).sum + day < length := by omega
          have further : length + (rest.take index).sum + day - length =
              (rest.take index).sum + day := by omega
          rw [List.take_succ_cons, List.sum_cons, monthAndDay, if_neg later, further, ih inMonth,
            Nat.add_right_comm, Nat.add_assoc]

/-- Every day of a year is a day of one of its months. -/
theorem exists_month_of_lt_sum {day : Nat} (inYear : day < lengths.sum) :
    ∃ index inMonth, inMonth < lengths.getD index 0 ∧ day = (lengths.take index).sum + inMonth := by
  induction lengths generalizing day with
  | nil => simp at inYear
  | cons length rest ih =>
      by_cases first : day < length
      · exact ⟨0, day, by simpa using first, by simp⟩
      · rw [List.sum_cons] at inYear
        have later : day - length < rest.sum := by omega
        obtain ⟨index, inMonth, bound, shape⟩ := ih later
        refine ⟨index + 1, inMonth, by simpa using bound, ?_⟩
        rw [List.take_succ_cons, List.sum_cons]
        omega

theorem sum_take_add_lt {index inMonth : Nat} (bound : inMonth < lengths.getD index 0) :
    (lengths.take index).sum + inMonth < lengths.sum := by
  induction lengths generalizing index with
  | nil => simp at bound
  | cons length rest ih =>
      cases index with
      | zero =>
          rw [List.getD_cons_zero] at bound
          rw [List.take_zero, List.sum_nil, List.sum_cons]
          omega
      | succ index =>
          have later := ih (by simpa using bound)
          rw [List.take_succ_cons, List.sum_cons, List.sum_cons]
          omega

end

/-! ## Years -/

/-- The years before a year, counted in cycles of 400 years, centuries, cycles of four years and
years.  The last century of a cycle is longer than the others, and so is the last year of four, unless
a century ends with it that is not the last of a cycle. -/
structure Cycles where
  cycles : Nat
  centuries : Nat
  fours : Nat
  years : Nat
  centuries_le : centuries ≤ 3
  fours_le : fours ≤ 24
  years_le : years ≤ 3

namespace Cycles

/-- The number of years in a count of cycles. -/
def total (count : Cycles) : Nat :=
  count.cycles * 400 + count.centuries * 100 + count.fours * 4 + count.years

variable (count : Cycles)

theorem daysBeforeYear_total :
    daysBeforeYear (count.total + 1) =
      count.cycles * 146097 + count.centuries * 36524 + count.fours * 1461 + count.years * 365 := by
  obtain ⟨cycles, centuries, fours, years, centuries_le, fours_le, years_le⟩ := count
  have inFours : (cycles * 400 + centuries * 100 + fours * 4 + years) / 4 =
      cycles * 100 + centuries * 25 + fours := by omega
  have inCenturies : (cycles * 400 + centuries * 100 + fours * 4 + years) / 100 =
      cycles * 4 + centuries := by omega
  have inCycles : (cycles * 400 + centuries * 100 + fours * 4 + years) / 400 = cycles := by omega
  simp only [daysBeforeYear, total, Nat.add_sub_cancel, inFours, inCenturies, inCycles]
  omega

theorem isLeapYear_total :
    isLeapYear (count.total + 1) = true ↔
      count.years = 3 ∧ (count.fours = 24 → count.centuries = 3) := by
  obtain ⟨cycles, centuries, fours, years, centuries_le, fours_le, years_le⟩ := count
  have byFour : (cycles * 400 + centuries * 100 + fours * 4 + years + 1) % 4 = 0 ↔ years = 3 := by
    omega
  have byCentury : (cycles * 400 + centuries * 100 + fours * 4 + years + 1) % 100 = 0 ↔
      years = 3 ∧ fours = 24 := by omega
  have byCycle : (cycles * 400 + centuries * 100 + fours * 4 + years + 1) % 400 = 0 ↔
      years = 3 ∧ fours = 24 ∧ centuries = 3 := by omega
  simp only [isLeapYear_iff, total, ne_eq, byFour, byCentury, byCycle]
  omega

theorem yearLength_total :
    yearLength (count.total + 1) =
      if count.years = 3 ∧ (count.fours = 24 → count.centuries = 3) then 366 else 365 := by
  rw [yearLength_eq]
  exact if_congr count.isLeapYear_total rfl rfl

end Cycles

/-- As many days are before the end of a year as before its start and in it. -/
theorem daysBeforeYear_succ {year : Nat} (positive : 1 ≤ year) :
    daysBeforeYear (year + 1) = daysBeforeYear year + yearLength year := by
  obtain ⟨past, rfl⟩ := Nat.exists_eq_add_of_le' positive
  have fours : (past + 1) / 4 = past / 4 + if (past + 1) % 4 = 0 then 1 else 0 := by
    split <;> omega
  have centuries : (past + 1) / 100 = past / 100 + if (past + 1) % 100 = 0 then 1 else 0 := by
    split <;> omega
  have cycles : (past + 1) / 400 = past / 400 + if (past + 1) % 400 = 0 then 1 else 0 := by
    split <;> omega
  simp only [daysBeforeYear, yearLength_eq, isLeapYear_iff, Nat.add_sub_cancel, fours, centuries,
    cycles]
  split_ifs <;> omega

theorem daysBeforeYear_mono {year later : Nat} (positive : 1 ≤ year) (ordered : year ≤ later) :
    daysBeforeYear year ≤ daysBeforeYear later := by
  obtain ⟨between, rfl⟩ := Nat.exists_eq_add_of_le ordered
  induction between with
  | zero => exact le_rfl
  | succ between ih =>
      have further : 1 ≤ year + between := by omega
      have step := daysBeforeYear_succ further
      have before := ih (Nat.le_add_right year between)
      rw [← Nat.add_assoc]
      omega

/-- A day tells the year to which it belongs. -/
theorem year_eq_of_days {year other day otherDay : Nat} (positive : 1 ≤ year)
    (otherPositive : 1 ≤ other) (inYear : day < yearLength year)
    (inOther : otherDay < yearLength other)
    (same : daysBeforeYear year + day = daysBeforeYear other + otherDay) : year = other := by
  rcases Nat.lt_trichotomy year other with before | equal | behind
  · have passed := daysBeforeYear_mono (Nat.le_add_left 1 year) before
    rw [daysBeforeYear_succ positive] at passed
    omega
  · exact equal
  · have passed := daysBeforeYear_mono (Nat.le_add_left 1 other) behind
    rw [daysBeforeYear_succ otherPositive] at passed
    omega

/-- The days before a year are cut into years by cutting them into cycles. -/
theorem yearsAndDays_eq (days : Nat) :
    ∃ count : Cycles, (yearsAndDays days).1 = count.total ∧
      daysBeforeYear (count.total + 1) + (yearsAndDays days).2 = days ∧
      (yearsAndDays days).2 < yearLength (count.total + 1) := by
  have centuries_le : min (days % 146097 / 36524) 3 ≤ 3 := Nat.min_le_right _ _
  have fours_le : (days % 146097 - min (days % 146097 / 36524) 3 * 36524) / 1461 ≤ 24 := by omega
  have years_le : min ((days % 146097 - min (days % 146097 / 36524) 3 * 36524) % 1461 / 365) 3 ≤ 3 :=
    Nat.min_le_right _ _
  refine ⟨⟨days / 146097, _, _, _, centuries_le, fours_le, years_le⟩, rfl, ?_, ?_⟩
  · rw [Cycles.daysBeforeYear_total]
    simp only [yearsAndDays]
    omega
  · rw [Cycles.yearLength_total]
    simp only [yearsAndDays]
    split <;> omega

/-! ## Dates -/

namespace Date

/-- The days of a year before a date. -/
def daysOfYear (date : Date) : Nat :=
  ((monthLengths date.year).take (date.month - 1)).sum + (date.day - 1)

variable {date : Date}

theorem IsProper.inMonth (proper : date.IsProper) :
    date.day - 1 < (monthLengths date.year).getD (date.month - 1) 0 := by
  have first := proper.day
  have last := proper.day_le
  omega

theorem IsProper.daysOfYear_lt (proper : date.IsProper) :
    date.daysOfYear < yearLength date.year :=
  sum_take_add_lt proper.inMonth

/-- The ordinal of a date counts the days before its year, those before it, and the date itself. -/
theorem IsProper.ordinal_eq (proper : date.IsProper) :
    date.ordinal = daysBeforeYear date.year + date.daysOfYear + 1 := by
  have first := proper.day
  rw [ordinal, foldl_add, daysOfYear]
  omega

/-- The date of an ordinal is in the calendar and has that ordinal. -/
theorem isProper_ofOrdinal {ordinal : Nat} (positive : 1 ≤ ordinal) :
    (ofOrdinal ordinal).IsProper ∧ (ofOrdinal ordinal).ordinal = ordinal := by
  obtain ⟨count, years, whole, inYear⟩ := yearsAndDays_eq (ordinal - 1)
  obtain ⟨index, inMonth, bound, shape⟩ := exists_month_of_lt_sum inYear
  have date : ofOrdinal ordinal = ⟨count.total + 1, 1 + index, inMonth + 1⟩ := by
    simp only [ofOrdinal, years]
    rw [shape, monthAndDay_sum_take bound]
  have proper : (⟨count.total + 1, 1 + index, inMonth + 1⟩ : Date).IsProper := by
    constructor
    · exact Nat.le_add_left 1 _
    · exact Nat.le_add_right 1 _
    · exact Nat.le_add_left 1 _
    · rw [Nat.add_sub_cancel_left]
      exact bound
  rw [date]
  refine ⟨proper, ?_⟩
  rw [proper.ordinal_eq, daysOfYear]
  simp only [Nat.add_sub_cancel, Nat.add_sub_cancel_left]
  omega

/-- A date of the calendar is found again from its ordinal. -/
theorem IsProper.ofOrdinal_ordinal (proper : date.IsProper) : ofOrdinal date.ordinal = date := by
  obtain ⟨count, years, whole, inYear⟩ := yearsAndDays_eq (date.ordinal - 1)
  rw [proper.ordinal_eq, Nat.add_sub_cancel] at years whole inYear
  have year : count.total + 1 = date.year :=
    year_eq_of_days (Nat.le_add_left 1 _) proper.year inYear proper.daysOfYear_lt whole
  rw [year] at whole
  have days := Nat.add_left_cancel whole
  have first := proper.month
  have positive := proper.day
  simp only [ofOrdinal, proper.ordinal_eq, Nat.add_sub_cancel, years, days, year]
  rw [daysOfYear, monthAndDay_sum_take proper.inMonth, Nat.add_sub_cancel' first,
    Nat.sub_add_cancel positive]

/-- The dates up to a year are those whose ordinals are at most the days before the next year. -/
theorem IsProper.year_le_iff (proper : date.IsProper) {year : Nat} :
    date.year ≤ year ↔ date.ordinal ≤ daysBeforeYear (year + 1) := by
  have inYear := proper.daysOfYear_lt
  have whole := daysBeforeYear_succ proper.year
  rw [proper.ordinal_eq]
  constructor
  · intro upTo
    have passed := daysBeforeYear_mono (Nat.le_add_left 1 date.year) (Nat.add_le_add_right upTo 1)
    omega
  · intro upTo
    by_contra later
    have passed := daysBeforeYear_mono (Nat.le_add_left 1 year) (Nat.lt_of_not_le later)
    omega

end Date

end HomeCatalog.Calendar
