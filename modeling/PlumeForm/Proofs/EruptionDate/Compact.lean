import PlumeForm.Proofs.EruptionDate.Canonical

/-!
# Compact dates

Twelve digits in a row, with white space around them or not, become the canonical text with these
digits, whatever the time is now. That text is read exactly if the calendar has the time that its
numbers name (`compact_date`).
-/

namespace PlumeForm.EruptionDate

open Text Calendar

namespace Columns

/-- The calendar has the month, the day in it, the hour and the minute of the columns. -/
structure IsDate (c : Columns) : Prop where
  month : 1 ≤ c.month.number ∧ c.month.number ≤ 12
  day : 1 ≤ c.day.number ∧ c.day.number ≤ daysInMonth c.year.number c.month.number
  hour : c.hour.number ≤ 23
  minute : c.minute.number ≤ 59

/-- Every year of four digits is supported, so only the other numbers can fail to exist. -/
theorem isDate_iff_exists (c : Columns) :
    c.IsDate ↔ ∃ t : CalendarTime, partsOf t = c.parts := by
  have hyear : c.year.number < 10 ^ 4 := c.year.number_lt
  constructor
  · rintro ⟨⟨hmonth, hmonths⟩, ⟨hday, hdays⟩, hhour, hminute⟩
    have hfirst : firstYear ≤ (c.year.number : Int) := by simp only [firstYear]; omega
    have hlast : (c.year.number : Int) ≤ lastYear := by simp only [lastYear]; omega
    exact ⟨⟨_, _, _, _, _, hfirst, hlast, hmonth, hmonths, hday, hdays, Nat.lt_succ_of_le hhour,
      Nat.lt_succ_of_le hminute⟩, rfl⟩
  · rintro ⟨t, ht⟩
    obtain ⟨-, -, hmonth, hmonths, hday, hdays, hhour, hminute⟩ := t.valid
    simp only [partsOf, parts, Prod.mk.injEq] at ht
    obtain ⟨hy, hmo, hd, hh, hmi⟩ := ht
    rw [hmo] at hmonth hmonths
    rw [hd, hy, hmo] at hdays
    rw [hd] at hday
    exact ⟨⟨hmonth, hmonths⟩, ⟨hday, hdays⟩, by omega, by omega⟩

end Columns

/-- A compact date gets the separators of the canonical text, whatever the time is now. The result
has the canonical length, and it is read exactly if the calendar has such a time, as the time that
the five numbers name. -/
theorem compact_date (input : String) (hlength : (trim input.toList).length = 12)
    (hdigits : AllDigits (trim input.toList)) :
    ∃ c : Columns, c.digits = trim input.toList ∧ ∀ now,
      (normalize input now).toList = c.text ∧
      hasCanonicalLength (normalize input now) = true ∧
      ((parse? (normalize input now)).isSome = true ↔ c.IsDate) ∧
      ∀ t, parse? (normalize input now) = some t ↔ partsOf t = c.parts := by
  obtain ⟨c, hc, htext⟩ := exists_columns_of_compact hlength hdigits
  refine ⟨c, hc, fun now => ⟨htext now, ?_, ?_, fun t => parse?_of_columns (htext now)⟩⟩
  · rw [hasCanonicalLength, htext now, c.length_text]
    rfl
  · rw [c.isDate_iff_exists, Option.isSome_iff_exists]
    exact exists_congr fun t => parse?_of_columns (htext now)

theorem compact_date_leapDay :
    (trim " 200002292359\t".toList).length = 12 ∧ AllDigits (trim " 200002292359\t".toList) ∧
      ∃ c : Columns, c.digits = "200002292359".toList ∧ c.IsDate ∧ ∀ now,
        (normalize " 200002292359\t" now).toList = c.text ∧
        (parse? (normalize " 200002292359\t" now)).isSome = true := by
  have htrim : trim " 200002292359\t".toList = "200002292359".toList := by decide
  have hlength : (trim " 200002292359\t".toList).length = 12 := by decide
  have hdigits : AllDigits (trim " 200002292359\t".toList) := by
    rw [htrim]
    exact List.all_eq_true.1 (by decide)
  have hread : ∀ now, (parse? (normalize " 200002292359\t" now)).isSome = true := by
    intro now
    rw [normalize_of_compact (by decide) (by decide), htrim]
    decide +kernel
  obtain ⟨c, hc, h⟩ := compact_date " 200002292359\t" hlength hdigits
  exact ⟨hlength, hdigits, c, hc.trans htrim, (h 0).2.2.1.1 (hread 0),
    fun now => ⟨(h now).1, hread now⟩⟩

end PlumeForm.EruptionDate
