import Mathlib.Algebra.GroupWithZero.Nat
import PlumeForm.Calendar

/-!
# Counting days

The days of the calendar are numbered from the start of year 1. A year begins one year's length
after the one before it (`daysBeforeYear_succ`), so every day lies in exactly one year, and that is
the one computed for it (`yearOfDay_eq_iff`). In the same way the days of a year fall into its
months (`splitMonths_spec`, `splitMonths_take`).
-/

namespace PlumeForm.CalendarTime

open Calendar

/-! ## Years -/

theorem isLeap_iff {year : Int} :
    isLeap year = true ↔ year % 4 = 0 ∧ (year % 100 ≠ 0 ∨ year % 400 = 0) := by
  simp [isLeap]

theorem sum_monthLengths (leap : Bool) :
    (monthLengths leap).sum = if leap then 366 else 365 := by
  cases leap <;> rfl

theorem daysBeforeYear_succ (year : Int) :
    daysBeforeYear (year + 1) = daysBeforeYear year + (monthLengths (isLeap year)).sum := by
  rw [sum_monthLengths]
  simp only [daysBeforeYear]
  by_cases hleap : isLeap year = true
  · have hrule := isLeap_iff.1 hleap
    simp only [hleap, if_true]
    omega
  · have hrule : ¬ (year % 4 = 0 ∧ (year % 100 ≠ 0 ∨ year % 400 = 0)) := fun h =>
      hleap (isLeap_iff.2 h)
    simp only [hleap, if_false, Bool.false_eq_true]
    omega

theorem daysBeforeYear_mono {a b : Int} (h : a ≤ b) : daysBeforeYear a ≤ daysBeforeYear b := by
  rcases Int.lt_or_eq_of_le h with hlt | rfl
  · simp only [daysBeforeYear]
    omega
  · exact Int.le_refl _

theorem daysBeforeYear_yearOfDay (day : Int) :
    daysBeforeYear (yearOfDay day) ≤ day ∧ day < daysBeforeYear (yearOfDay day + 1) := by
  -- The guess is off by at most one year, on either side.
  have hlow : daysBeforeYear (day * 400 / 146097 + 1 - 1) ≤ day := by
    simp only [daysBeforeYear]
    omega
  have hhigh : day < daysBeforeYear (day * 400 / 146097 + 1 + 1 + 1) := by
    simp only [daysBeforeYear]
    omega
  simp only [yearOfDay]
  split
  · next hbefore =>
    rw [Int.sub_add_cancel]
    exact ⟨hlow, hbefore⟩
  · next hafter =>
    split
    · next hnext => exact ⟨hnext, hhigh⟩
    · next hnext => exact ⟨Int.not_lt.1 hafter, Int.not_le.1 hnext⟩

/-- The year computed for a day is the one that the day lies in. -/
theorem yearOfDay_eq_iff {day year : Int} :
    yearOfDay day = year ↔ daysBeforeYear year ≤ day ∧ day < daysBeforeYear (year + 1) := by
  obtain ⟨hlow, hhigh⟩ := daysBeforeYear_yearOfDay day
  constructor
  · rintro rfl
    exact ⟨hlow, hhigh⟩
  · rintro ⟨hstart, hend⟩
    apply Int.le_antisymm
    · apply Int.not_lt.1
      intro hlt
      have := daysBeforeYear_mono (show year + 1 ≤ yearOfDay day from hlt)
      omega
    · apply Int.not_lt.1
      intro hlt
      have := daysBeforeYear_mono (show yearOfDay day + 1 ≤ year from hlt)
      omega

/-! ## Months -/

variable {lengths : List Nat} {month rest : Nat}

theorem splitMonths_spec {day : Nat} (h : day < lengths.sum) :
    (splitMonths lengths day).2 < lengths.getD (splitMonths lengths day).1 0 ∧
      (lengths.take (splitMonths lengths day).1).sum + (splitMonths lengths day).2 = day := by
  induction lengths generalizing day with
  | nil => exact absurd h (Nat.not_lt_zero day)
  | cons length lengths ih =>
    rw [List.sum_cons] at h
    by_cases hfirst : day < length
    · simp [splitMonths, hfirst]
    · have hshort : day - length < lengths.sum := by omega
      obtain ⟨hrest, hsum⟩ := ih hshort
      simp only [splitMonths, hfirst, if_false, List.getD_cons_succ, List.take_succ_cons,
        List.sum_cons]
      exact ⟨hrest, by omega⟩

theorem splitMonths_take (h : rest < lengths.getD month 0) :
    splitMonths lengths ((lengths.take month).sum + rest) = (month, rest) := by
  induction lengths generalizing month with
  | nil => simp at h
  | cons length lengths ih =>
    cases month with
    | zero =>
      have hfirst : rest < length := h
      simp [splitMonths, hfirst]
    | succ month =>
      have hmonth : rest < lengths.getD month 0 := by simpa using h
      have hnext := ih hmonth
      have hfirst : ¬ length + (lengths.take month).sum + rest < length := by omega
      have hrest : length + (lengths.take month).sum + rest - length =
          (lengths.take month).sum + rest := by omega
      simp only [splitMonths, List.take_succ_cons, List.sum_cons, hfirst, if_false, hrest, hnext]

/-- Whole months before a later month include the earlier one. -/
theorem sum_take_add_getD_le (lengths : List Nat) {month later : Nat} (h : month < later) :
    (lengths.take month).sum + lengths.getD month 0 ≤ (lengths.take later).sum := by
  induction lengths generalizing month later with
  | nil => simp
  | cons length lengths ih =>
    obtain ⟨later, rfl⟩ := Nat.exists_eq_add_one_of_ne_zero (Nat.ne_zero_of_lt h)
    cases month with
    | zero => simp
    | succ month =>
      have hnext := ih (Nat.lt_of_succ_lt_succ h)
      simp only [List.take_succ_cons, List.sum_cons, List.getD_cons_succ]
      omega

theorem sum_take_add_lt_sum (h : rest < lengths.getD month 0) :
    (lengths.take month).sum + rest < lengths.sum := by
  have hmonth : month < lengths.length := by
    apply Nat.lt_of_not_le
    intro hle
    simp [hle] at h
  have hle := sum_take_add_getD_le lengths hmonth
  rw [List.take_length] at hle
  omega

end PlumeForm.CalendarTime
