import PlumeForm.Proofs.Decimal.Characters
import PlumeForm.Proofs.EruptionDate.Columns

/-!
# Canonical texts

A time with a year from 0 to 9999 is rendered in columns, and reading the rendering gives the time
back; any other rendering is longer than that and is not read (`render_read_back`). What
normalising makes of a date is left alone by it from then on, at every time (`normalize_render`,
`normalize_columns`), so normalising twice is normalising once (`normalize_normalize`).
-/

namespace PlumeForm.EruptionDate

open Text

/-! ## Columns of a time -/

namespace Run

/-- A number with zeros before it, as so many digits. -/
def ofNumber {width n : Nat} (hwidth : 0 < width) (h : n < 10 ^ width) : Run width where
  digits := padded width n
  allDigits_digits := allDigits_padded width n
  length_digits := length_padded_of_lt hwidth h

theorem number_ofNumber {width n : Nat} (hwidth : 0 < width) (h : n < 10 ^ width) :
    (ofNumber hwidth h).number = n :=
  value_padded width n

end Run

theorem Columns.length_text (c : Columns) : c.text.length = canonicalLength := by
  simp only [text, List.length_append, List.length_cons, Run.length_digits]
  rfl

/-- All numbers of a time but the year have at most two digits. -/
theorem lt_hundred (t : CalendarTime) :
    t.month < 10 ^ 2 ∧ t.day < 10 ^ 2 ∧ t.hour < 10 ^ 2 ∧ t.minute < 10 ^ 2 := by
  obtain ⟨-, -, -, hmonth, -, hday, hhour, hminute⟩ := t.valid
  have hdays : Calendar.daysInMonth t.year t.month ≤ 31 := by
    have hlengths : ∀ leap, ∀ month < 12, (Calendar.monthLengths leap).getD month 0 ≤ 31 := by
      decide
    unfold Calendar.daysInMonth
    split
    · exact Nat.zero_le 31
    · exact hlengths _ _ (by omega)
  omega

/-- The columns of a time with a year of four digits. -/
theorem exists_columns_of_year {t : CalendarTime} (hlow : 0 ≤ t.year) (hhigh : t.year ≤ 9999) :
    ∃ c : Columns, c.parts = partsOf t := by
  obtain ⟨hmonth, hday, hhour, hminute⟩ := lt_hundred t
  have hyear : t.year.toNat < 10 ^ 4 := by omega
  refine ⟨⟨.ofNumber (by decide) hyear, .ofNumber (by decide) hmonth, .ofNumber (by decide) hday,
    .ofNumber (by decide) hhour, .ofNumber (by decide) hminute⟩, ?_⟩
  simp only [Columns.parts, Run.number_ofNumber, partsOf, Int.toNat_of_nonneg hlow]

theorem exists_columns_render {t : CalendarTime} (hlow : 0 ≤ t.year) (hhigh : t.year ≤ 9999) :
    ∃ c : Columns, c.parts = partsOf t ∧ (render t).toList = c.text := by
  obtain ⟨c, hc⟩ := exists_columns_of_year hlow hhigh
  exact ⟨c, hc, render_eq_of_parts hc.symm⟩

/-- Reading columns gives the time with their numbers, if there is one. -/
theorem parse?_of_columns {value : String} {c : Columns} (h : value.toList = c.text)
    {t : CalendarTime} : parse? value = some t ↔ partsOf t = c.parts := by
  rw [parse?_eq_some_iff, h, c.length_text, readParts?_columns, Option.some.injEq]
  exact (and_iff_right rfl).trans eq_comm

/-- Reading a rendering with a year of four digits gives the time back. -/
theorem parse?_render {t : CalendarTime} (hlow : 0 ≤ t.year) (hhigh : t.year ≤ 9999) :
    parse? (render t) = some t := by
  obtain ⟨c, hparts, htext⟩ := exists_columns_render hlow hhigh
  exact (parse?_of_columns htext).2 hparts.symm

theorem length_renderYear (year : Int) :
    4 ≤ (renderYear year).length ∧
      ((renderYear year).length = 4 ↔ 0 ≤ year ∧ year ≤ 9999) := by
  rcases renderYear_spec year with ⟨hlow, hhigh, hrender⟩ | ⟨hother, hfive⟩
  · have hlength : (renderYear year).length = 4 := by
      rw [hrender]
      exact length_padded_of_lt (by decide) (by omega)
    exact ⟨Nat.le_of_eq hlength.symm, fun _ => ⟨hlow, hhigh⟩, fun _ => hlength⟩
  · omega

/-- A rendering has twelve characters behind its year. -/
theorem length_render (t : CalendarTime) :
    (render t).toList.length = (renderYear t.year).length + 12 := by
  obtain ⟨hmonth, hday, hhour, hminute⟩ := lt_hundred t
  have htwo : ∀ {n}, n < 10 ^ 2 → (padded 2 n).length = 2 := length_padded_of_lt (by decide)
  rw [render, String.toList_ofList]
  simp only [List.length_append, List.length_cons, htwo hmonth, htwo hday, htwo hhour,
    htwo hminute]

/-- A rendering is as long as its year lets it be. -/
theorem length_render_iff {t : CalendarTime} :
    (render t).toList.length = canonicalLength ↔ 0 ≤ t.year ∧ t.year ≤ 9999 := by
  rw [← (length_renderYear t.year).2, length_render, canonicalLength]
  omega

/-- A rendering is read exactly if its year has four digits, and then as the time itself. -/
theorem parse?_render_iff {t found : CalendarTime} :
    parse? (render t) = some found ↔ (0 ≤ t.year ∧ t.year ≤ 9999) ∧ found = t := by
  constructor
  · intro h
    have hyear := length_render_iff.1 (parse?_eq_some_iff.1 h).1
    rw [parse?_render hyear.1 hyear.2] at h
    cases h
    exact ⟨hyear, rfl⟩
  · rintro ⟨hyear, rfl⟩
    exact parse?_render hyear.1 hyear.2

/-- Reading undoes rendering exactly for the years of four digits. The rendering of any other
supported year is longer, and it is not read at all. -/
theorem render_read_back (t : CalendarTime) :
    (parse? (render t) = some t ↔ 0 ≤ t.year ∧ t.year ≤ 9999) ∧
      (canonicalLength < (render t).toList.length ↔ t.year < 0 ∨ 9999 < t.year) ∧
      (parse? (render t) = none ↔ t.year < 0 ∨ 9999 < t.year) := by
  have hother : ¬ (0 ≤ t.year ∧ t.year ≤ 9999) ↔ t.year < 0 ∨ 9999 < t.year := by omega
  refine ⟨?_, ?_, ?_⟩
  · rw [parse?_render_iff]
    exact and_iff_left rfl
  · have hfour := length_renderYear t.year
    rw [length_render, canonicalLength]
    omega
  · rw [← hother, Option.eq_none_iff_forall_not_mem]
    constructor
    · intro hnone hyear
      exact hnone t (parse?_render_iff.2 ⟨hyear, rfl⟩)
    · intro hyear found hfound
      exact hyear (parse?_render_iff.1 hfound).1

example : parse? (render ⟨9999, 12, 31, 23, 59, by decide⟩) =
    some ⟨9999, 12, 31, 23, 59, by decide⟩ := by decide +kernel

example : parse? (render ⟨-1, 12, 31, 23, 59, by decide⟩) = none := by decide +kernel

/-! ## The cases of normalising -/

section Cases

variable {input : String} {now : Int}

theorem normalize_of_relative {t : CalendarTime} (hsigned : isSigned (trim input.toList) = true)
    (h : relative? (trim input.toList) now = some t) : normalize input now = render t := by
  simp only [normalize, hsigned, h, if_true]

theorem normalize_of_no_relative (hsigned : isSigned (trim input.toList) = true)
    (h : relative? (trim input.toList) now = none) : normalize input now = input := by
  simp only [normalize, hsigned, h, if_true]

theorem normalize_of_compact (hsigned : isSigned (trim input.toList) = false)
    (h : isCompact (trim input.toList) = true) :
    normalize input now = spaced (trim input.toList) := by
  simp only [normalize, hsigned, h, if_true, if_false, Bool.false_eq_true]

theorem normalize_of_neither (hsigned : isSigned (trim input.toList) = false)
    (h : isCompact (trim input.toList) = false) : normalize input now = input := by
  simp only [normalize, hsigned, h, if_false, Bool.false_eq_true]

end Cases

/-! ## Results of normalising -/

/-- A date has no white space at its ends: it begins with a digit or a sign, and a digit ends it. -/
theorem trim_date {c : Char} {cs month day hour minute : List Char} (hfirst : isBlank c = false)
    (hne : minute ≠ []) (hminute : AllDigits minute) :
    trim ((c :: cs) ++ ' ' :: month ++ ' ' :: day ++ ' ' :: hour ++ ':' :: minute) =
      (c :: cs) ++ ' ' :: month ++ ' ' :: day ++ ' ' :: hour ++ ':' :: minute := by
  apply trim_eq_self
  · rintro d r ⟨⟩
    exact hfirst
  · intro d hd
    rw [List.getLast?_append, List.getLast?_cons_of_ne_nil hne, List.getLast?_eq_some_getLast hne,
      Option.some_or, Option.some.injEq] at hd
    rw [← hd]
    exact isBlank_of_isDigit (hminute _ (List.getLast_mem hne))

theorem isSigned_of_isDigit {c : Char} {cs : List Char} (h : c.isDigit = true) :
    isSigned (c :: cs) = false := by
  unfold isSigned
  split
  · next heq =>
    cases heq
    exact absurd h (by decide)
  · next heq =>
    cases heq
    exact absurd h (by decide)
  · rfl

theorem relative?_of_space {cs : List Char} (h : ' ' ∈ cs) (now : Int) :
    relative? cs now = none := by
  have hread : Decimal.readFinite? cs = none := by
    cases hread : Decimal.readFinite? cs with
    | none => rfl
    | some x =>
      have hspace := Decimal.isNumberChar_of_read? (Decimal.readFinite?_eq_some_iff.1 hread).1 ' ' h
      exact absurd hspace.toNat_bounds.1 (by decide)
  simp only [relative?, offset?, hread]

theorem isCompact_of_space {cs : List Char} (h : ' ' ∈ cs) : isCompact cs = false := by
  rw [isCompact, Bool.and_eq_false_iff]
  exact .inr (List.all_eq_false.2 ⟨' ', h, by decide⟩)

/-- A text with a space inside stays as it is: neither an hour count nor a compact date has one. -/
theorem normalize_of_space {value : String} (h : ' ' ∈ trim value.toList) (now : Int) :
    normalize value now = value := by
  cases hsigned : isSigned (trim value.toList) with
  | true => exact normalize_of_no_relative hsigned (relative?_of_space h now)
  | false => exact normalize_of_neither hsigned (isCompact_of_space h)

theorem space_mem_trim_columns {value : String} {c : Columns} (h : value.toList = c.text) :
    ' ' ∈ trim value.toList := by
  obtain ⟨d, ds, hyear⟩ := List.exists_cons_of_length_eq_add_one c.year.length_digits
  have hdigit : d.isDigit = true := c.year.allDigits_digits d (hyear ▸ List.mem_cons_self)
  have hne : c.minute.digits ≠ [] := List.ne_nil_of_length_eq_add_one c.minute.length_digits
  rw [h, Columns.text, hyear,
    trim_date (isBlank_of_isDigit hdigit) hne c.minute.allDigits_digits]
  simp

/-- A year begins with a sign or a digit. -/
theorem exists_cons_renderYear (year : Int) :
    ∃ c cs, renderYear year = c :: cs ∧ isBlank c = false := by
  by_cases hnegative : year < 0
  · exact ⟨'-', _, if_pos hnegative, by decide⟩
  · by_cases hlarge : 9999 < year
    · exact ⟨'+', _, (if_neg hnegative).trans (if_pos hlarge), by decide⟩
    · have hpadded : renderYear year = padded 4 year.natAbs :=
        (if_neg hnegative).trans (if_neg hlarge)
      obtain ⟨c, cs, hcons⟩ := List.exists_cons_of_length_pos
        (Nat.lt_of_lt_of_le (by decide) (le_length_padded 4 year.natAbs))
      have hdigit := allDigits_padded 4 year.natAbs c (hcons ▸ List.mem_cons_self)
      exact ⟨c, cs, hpadded.trans hcons, isBlank_of_isDigit hdigit⟩

theorem space_mem_trim_render (t : CalendarTime) : ' ' ∈ trim (render t).toList := by
  obtain ⟨c, cs, hyear, hfirst⟩ := exists_cons_renderYear t.year
  have hne : padded 2 t.minute ≠ [] := List.ne_nil_of_length_pos
    (Nat.lt_of_lt_of_le (by decide) (le_length_padded 2 t.minute))
  rw [render, String.toList_ofList, hyear, trim_date hfirst hne (allDigits_padded 2 t.minute)]
  simp

/-- A date in columns stays as it is. -/
theorem normalize_columns {value : String} {c : Columns} (h : value.toList = c.text) (now : Int) :
    normalize value now = value :=
  normalize_of_space (space_mem_trim_columns h) now

/-- A rendering stays as it is. Beyond the years of four digits it begins with a sign, but the
spaces in it keep it from being an hour count. -/
theorem normalize_render (t : CalendarTime) (now : Int) : normalize (render t) now = render t :=
  normalize_of_space (space_mem_trim_render t) now

/-! ## Twelve digits -/

/-- The digits without their separators. -/
def Columns.digits (c : Columns) : List Char :=
  c.year.digits ++ (c.month.digits ++ (c.day.digits ++ (c.hour.digits ++ c.minute.digits)))

/-- Twelve digits are those of columns, and separators between them make the columns' text. -/
theorem exists_columns_of_digits {cs : List Char} (hlength : cs.length = 12)
    (hdigits : AllDigits cs) : ∃ c : Columns, c.digits = cs ∧ (spaced cs).toList = c.text := by
  have hfront : ∀ n, AllDigits (cs.take n) := fun n d hd => hdigits d (List.mem_of_mem_take hd)
  have hpart : ∀ n, AllDigits ((cs.drop n).take 2) := fun n d hd =>
    hdigits d (List.mem_of_mem_drop (List.mem_of_mem_take hd))
  have hsplit : ∀ n, (cs.drop n).take 2 ++ cs.drop (n + 2) = cs.drop n := by
    intro n
    rw [← List.drop_drop]
    exact List.take_append_drop 2 (cs.drop n)
  have hlast : (cs.drop 10).take 2 = cs.drop 10 := List.take_of_length_le (by simp [hlength])
  refine ⟨⟨⟨cs.take 4, hfront 4, by simp [hlength]⟩, ⟨_, hpart 4, by simp [hlength]⟩,
    ⟨_, hpart 6, by simp [hlength]⟩, ⟨_, hpart 8, by simp [hlength]⟩,
    ⟨_, hpart 10, by simp [hlength]⟩⟩, ?_, ?_⟩
  · simp only [Columns.digits, hlast, hsplit, List.take_append_drop]
  · rw [spaced, String.toList_ofList]
    rfl

theorem isCompact_iff {cs : List Char} : isCompact cs = true ↔ cs.length = 12 ∧ AllDigits cs := by
  simp [isCompact, AllDigits]

theorem isSigned_of_digits {cs : List Char} (h : AllDigits cs) : isSigned cs = false := by
  cases cs with
  | nil => rfl
  | cons c cs => exact isSigned_of_isDigit (allDigits_cons.1 h).1

/-- Twelve digits become their columns. -/
theorem exists_columns_of_compact {input : String} (hlength : (trim input.toList).length = 12)
    (hdigits : AllDigits (trim input.toList)) :
    ∃ c : Columns, c.digits = trim input.toList ∧
      ∀ now, (normalize input now).toList = c.text := by
  obtain ⟨c, hc, htext⟩ := exists_columns_of_digits hlength hdigits
  refine ⟨c, hc, fun now => ?_⟩
  rw [normalize_of_compact (isSigned_of_digits hdigits) (isCompact_iff.2 ⟨hlength, hdigits⟩), htext]

/-- Normalising twice is normalising once. -/
theorem normalize_normalize (input : String) (now : Int) :
    normalize (normalize input now) now = normalize input now := by
  cases hsigned : isSigned (trim input.toList) with
  | true =>
    cases hrelative : relative? (trim input.toList) now with
    | none =>
      have hsame := normalize_of_no_relative hsigned hrelative
      rw [hsame, hsame]
    | some t => rw [normalize_of_relative hsigned hrelative, normalize_render]
  | false =>
    cases hcompact : isCompact (trim input.toList) with
    | false =>
      have hsame : normalize input now = input := normalize_of_neither hsigned hcompact
      rw [hsame, hsame]
    | true =>
      obtain ⟨hlength, hdigits⟩ := isCompact_iff.1 hcompact
      obtain ⟨c, -, htext⟩ := exists_columns_of_compact hlength hdigits
      exact normalize_columns (htext now) now

end PlumeForm.EruptionDate
