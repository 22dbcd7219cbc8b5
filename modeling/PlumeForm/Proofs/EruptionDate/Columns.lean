import PlumeForm.Proofs.EruptionDate.Reading

/-!
# Date texts in columns

The canonical text of a time with a year of four digits has every number in a place of its own:
digits up to the full width of the number, one separator behind each. `Columns` are such digits.
They are read as the numbers they denote (`readParts?_columns`), and the rendering of a time that
has these numbers gives the columns back (`render_eq_of_parts`).
-/

namespace PlumeForm.EruptionDate

open Text

/-! ## Padded numbers -/

theorem allDigits_padded (width n : Nat) : AllDigits (padded width n) := by
  refine allDigits_append.2 ⟨?_, fun c hc => Nat.isDigit_of_mem_toDigits (by decide) (by decide) hc⟩
  intro c hc
  rw [(List.mem_replicate.1 hc).2]
  decide

theorem value_padded (width n : Nat) : value (padded width n) = n := by
  rw [value, padded, Nat.ofDigitChars_append, Nat.ofDigitChars_replicate_zero, Nat.mul_zero,
    Nat.ofDigitChars_ten_toDigits]

theorem length_padded (width n : Nat) :
    (padded width n).length = max width (Nat.toDigits 10 n).length := by
  simp only [padded, List.length_append, List.length_replicate]
  omega

theorem le_length_padded (width n : Nat) : width ≤ (padded width n).length := by
  rw [length_padded]
  exact Nat.le_max_left ..

theorem length_padded_of_lt {width n : Nat} (hwidth : 0 < width) (h : n < 10 ^ width) :
    (padded width n).length = width := by
  rw [length_padded]
  exact Nat.max_eq_left ((Nat.length_toDigits_le_iff (by decide) hwidth).2 h)

/-! ## Runs of a given length -/

/-- So many digits. -/
structure Run (width : Nat) where
  digits : List Char
  allDigits_digits : AllDigits digits
  length_digits : digits.length = width

namespace Run

/-- The number that the digits denote. -/
def number {width : Nat} (r : Run width) : Nat := value r.digits

theorem number_lt {width : Nat} (r : Run width) : r.number < 10 ^ width := by
  have hlt := value_lt r.allDigits_digits
  rw [r.length_digits] at hlt
  exact hlt

/-- A run is its number with zeros before it. -/
theorem padded_number {width : Nat} (r : Run width) (hwidth : 0 < width) :
    padded width r.number = r.digits := by
  have hlength : (padded width r.number).length = r.digits.length :=
    (length_padded_of_lt hwidth r.number_lt).trans r.length_digits.symm
  have hvalue : value (padded width r.number) = value r.digits := value_padded width r.number
  exact eq_of_value_eq (allDigits_padded width r.number) r.allDigits_digits hlength hvalue

/-- The digits behind so much white space. -/
def numeral {width : Nat} (r : Run (width + 1)) (blanks : List Char)
    (h : isBlankText blanks = true) : Numeral where
  blanks := blanks
  digits := r.digits
  isBlankText_blanks := h
  allDigits_digits := r.allDigits_digits
  digits_ne_nil := List.ne_nil_of_length_eq_add_one r.length_digits

end Run

/-! ## Columns -/

/-- The digits of a date text that has every number at its full width. -/
structure Columns where
  year : Run 4
  month : Run 2
  day : Run 2
  hour : Run 2
  minute : Run 2

namespace Columns

/-- The digits with their separators. -/
def text (c : Columns) : List Char :=
  c.year.digits ++ ' ' :: c.month.digits ++ ' ' :: c.day.digits ++ ' ' :: c.hour.digits ++
    ':' :: c.minute.digits

/-- The five numbers. -/
def parts (c : Columns) : Int × Nat × Nat × Nat × Nat :=
  (c.year.number, c.month.number, c.day.number, c.hour.number, c.minute.number)

/-- The columns as the date reader takes them apart. -/
def spelling (c : Columns) : Spelling where
  sign := .none
  year := c.year.numeral [] rfl
  month := c.month.numeral [' '] (by decide)
  day := c.day.numeral [' '] (by decide)
  hour := c.hour.numeral [' '] (by decide)
  minute := c.minute.numeral [] rfl

theorem readable_spelling (c : Columns) : c.spelling.Readable where
  year_le := fun _ => Nat.le_of_eq c.year.length_digits
  month_le := Nat.le_of_eq c.month.length_digits
  day_le := Nat.le_of_eq c.day.length_digits
  hour_le := Nat.le_of_eq c.hour.length_digits
  minute_le := Nat.le_of_eq c.minute.length_digits
  year_end := .inr (List.cons_ne_nil _ _)
  month_end := .inr (List.cons_ne_nil _ _)
  day_end := .inr (List.cons_ne_nil _ _)

theorem text_spelling (c : Columns) : c.spelling.text = c.text := by
  simp [Spelling.text, Numeral.text, spelling, Run.numeral, Sign.text, text]

end Columns

theorem readParts?_columns (c : Columns) : readParts? c.text = some c.parts := by
  rw [← c.text_spelling]
  exact readParts?_text c.readable_spelling

/-! ## Rendering -/

theorem renderYear_number (r : Run 4) : renderYear (r.number : Int) = r.digits := by
  have hlt : r.number < 10 ^ 4 := r.number_lt
  have hnonneg : ¬ (r.number : Int) < 0 := by omega
  have hfour : ¬ 9999 < (r.number : Int) := by omega
  rw [renderYear, if_neg hnonneg, if_neg hfour, Int.natAbs_natCast, r.padded_number (by decide)]

/-- A time with the numbers of the columns is written as the columns. -/
theorem render_eq_of_parts {c : Columns} {t : CalendarTime} (h : partsOf t = c.parts) :
    (render t).toList = c.text := by
  simp only [partsOf, Columns.parts, Prod.mk.injEq] at h
  obtain ⟨hyear, hmonth, hday, hhour, hminute⟩ := h
  rw [render, String.toList_ofList, hyear, hmonth, hday, hhour, hminute, renderYear_number,
    c.month.padded_number (by decide), c.day.padded_number (by decide),
    c.hour.padded_number (by decide), c.minute.padded_number (by decide)]
  rfl

/-- A year outside of 0 to 9999 has a sign, and so a rendering of more than four characters. -/
theorem renderYear_spec (year : Int) :
    (0 ≤ year ∧ year ≤ 9999 ∧ renderYear year = padded 4 year.natAbs) ∨
      ((year < 0 ∨ 9999 < year) ∧ 5 ≤ (renderYear year).length) := by
  have hlength : 4 ≤ (padded 4 year.natAbs).length := le_length_padded ..
  by_cases hnegative : year < 0
  · refine .inr ⟨.inl hnegative, ?_⟩
    simp only [renderYear, hnegative, if_true, List.length_cons]
    omega
  · by_cases hlarge : 9999 < year
    · refine .inr ⟨.inr hlarge, ?_⟩
      simp only [renderYear, hnegative, hlarge, if_true, if_false, List.length_cons]
      omega
    · refine .inl ⟨by omega, by omega, ?_⟩
      simp only [renderYear, hnegative, hlarge, if_false]

/-- The rendering of a time has the canonical length only when it is in columns. -/
theorem exists_columns_of_length_render {t : CalendarTime}
    (h : (render t).toList.length = canonicalLength) :
    ∃ c : Columns, c.text = (render t).toList := by
  rw [render, String.toList_ofList] at h ⊢
  have hmonth := le_length_padded 2 t.month
  have hday := le_length_padded 2 t.day
  have hhour := le_length_padded 2 t.hour
  have hminute := le_length_padded 2 t.minute
  have hyearlength := le_length_padded 4 t.year.natAbs
  simp only [List.length_append, List.length_cons, canonicalLength] at h
  rcases renderYear_spec t.year with ⟨-, -, hyear⟩ | ⟨-, hyear⟩
  · rw [hyear] at h ⊢
    -- Four separators leave twelve digits, which the five numbers need at least.
    refine ⟨⟨⟨_, allDigits_padded 4 t.year.natAbs, ?_⟩, ⟨_, allDigits_padded 2 t.month, ?_⟩,
      ⟨_, allDigits_padded 2 t.day, ?_⟩, ⟨_, allDigits_padded 2 t.hour, ?_⟩,
      ⟨_, allDigits_padded 2 t.minute, ?_⟩⟩, rfl⟩ <;> omega
  · omega

end PlumeForm.EruptionDate
