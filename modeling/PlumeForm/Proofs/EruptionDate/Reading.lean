import PlumeForm.EruptionDate
import PlumeForm.Proofs.Text.Digits
import PlumeForm.Proofs.Text.Trimming

/-!
# What the date reader accepts

A `Spelling` is a date text taken apart: five numbers, each behind white space, the year with or
without a sign. The reader of a number takes as many digits as it may, so a spelling is read only
where a number that could be longer is not followed by a digit (`Spelling.Readable`).
`readParts?_eq_some_iff`: the texts read are those of the readable spellings, and what is read are
their numbers. `parse?_eq_some_iff` adds the length and the calendar.
-/

namespace PlumeForm.EruptionDate

open Text

/-! ## Digits -/

theorem takeDigits_append {width : Nat} {ds rest : List Char} (hdigits : AllDigits ds)
    (hwidth : ds.length ≤ width) (hend : ds.length = width ∨ NoLeadingDigit rest) :
    takeDigits width (ds ++ rest) = (ds, rest) := by
  induction ds generalizing width with
  | nil =>
    cases width with
    | zero => rfl
    | succ width =>
      have hrest : NoLeadingDigit rest := hend.resolve_left (by simp)
      cases rest with
      | nil => rfl
      | cons c rest => simp [takeDigits, noLeadingDigit_cons.1 hrest]
  | cons d ds ih =>
    obtain ⟨hd, hds⟩ := allDigits_cons.1 hdigits
    cases width with
    | zero => cases hwidth
    | succ width =>
      have hrest := ih hds (Nat.le_of_succ_le_succ hwidth) (hend.imp_left Nat.succ.inj)
      simp [takeDigits, hd, hrest]

theorem takeDigits_spec (width : Nat) (cs : List Char) :
    AllDigits (takeDigits width cs).1 ∧ (takeDigits width cs).1.length ≤ width ∧
      cs = (takeDigits width cs).1 ++ (takeDigits width cs).2 ∧
      ((takeDigits width cs).1.length = width ∨ NoLeadingDigit (takeDigits width cs).2) := by
  induction cs generalizing width with
  | nil =>
    cases width with
    | zero => exact ⟨allDigits_nil, Nat.le_refl _, rfl, .inl rfl⟩
    | succ width => exact ⟨allDigits_nil, Nat.zero_le _, rfl, .inr noLeadingDigit_nil⟩
  | cons c cs ih =>
    cases width with
    | zero => exact ⟨allDigits_nil, Nat.le_refl _, rfl, .inl rfl⟩
    | succ width =>
      by_cases hc : c.isDigit = true
      · obtain ⟨hdigits, hlength, happend, hend⟩ := ih width
        simp only [takeDigits, hc, if_true, List.length_cons, List.cons_append, List.cons.injEq,
          true_and]
        exact ⟨allDigits_cons.2 ⟨hc, hdigits⟩, Nat.succ_le_succ hlength, happend,
          hend.imp_left (congrArg Nat.succ)⟩
      · simp only [takeDigits, hc]
        exact ⟨allDigits_nil, Nat.zero_le _, rfl,
          .inr (noLeadingDigit_cons.2 (Bool.not_eq_true _ ▸ hc))⟩

theorem readDigits?_eq_some_iff {width n : Nat} {cs rest : List Char} :
    readDigits? width cs = some (n, rest) ↔
      ∃ ds, ds ≠ [] ∧ AllDigits ds ∧ ds.length ≤ width ∧ cs = ds ++ rest ∧ value ds = n ∧
        (ds.length = width ∨ NoLeadingDigit rest) := by
  constructor
  · intro h
    obtain ⟨hdigits, hlength, happend, hend⟩ := takeDigits_spec width cs
    simp only [readDigits?] at h
    split at h
    · cases h
    · next hne =>
      obtain ⟨hvalue, hrest⟩ := Prod.mk.inj (Option.some.inj h)
      rw [hrest] at happend hend
      exact ⟨_, hne, hdigits, hlength, happend, hvalue, hend⟩
  · rintro ⟨ds, hne, hdigits, hlength, rfl, rfl, hend⟩
    simp [readDigits?, takeDigits_append hdigits hlength hend, hne]

/-- A reader with room for the whole text stops at the first character that is no digit. -/
theorem readDigits?_length_eq_some_iff {n : Nat} {cs rest : List Char} :
    readDigits? cs.length cs = some (n, rest) ↔
      ∃ ds, ds ≠ [] ∧ AllDigits ds ∧ cs = ds ++ rest ∧ value ds = n ∧ NoLeadingDigit rest := by
  rw [readDigits?_eq_some_iff]
  constructor
  · rintro ⟨ds, hne, hdigits, -, happend, hvalue, hend⟩
    refine ⟨ds, hne, hdigits, happend, hvalue, hend.elim (fun hlength => ?_) id⟩
    rw [happend, List.length_append] at hlength
    rw [List.length_eq_zero_iff.1 (by omega : rest.length = 0)]
    exact noLeadingDigit_nil
  · rintro ⟨ds, hne, hdigits, rfl, hvalue, hend⟩
    exact ⟨ds, hne, hdigits, by simp, rfl, hvalue, .inr hend⟩

/-! ## Numbers behind white space -/

theorem trimStart_of_digits {ds rest : List Char} (hne : ds ≠ []) (hdigits : AllDigits ds) :
    trimStart (ds ++ rest) = ds ++ rest := by
  obtain ⟨d, ds, rfl⟩ := List.exists_cons_of_ne_nil hne
  refine trimStart_eq_self ?_
  rintro c r ⟨⟩
  exact isBlank_of_isDigit (allDigits_cons.1 hdigits).1

theorem exists_append_trimStart (cs : List Char) :
    ∃ blanks, isBlankText blanks = true ∧ cs = blanks ++ trimStart cs :=
  ⟨cs.takeWhile isBlank, List.all_takeWhile, List.takeWhile_append_dropWhile.symm⟩

/-- A number as a date text writes it: white space, and then digits. -/
structure Numeral where
  blanks : List Char
  digits : List Char
  isBlankText_blanks : isBlankText blanks = true
  allDigits_digits : AllDigits digits
  digits_ne_nil : digits ≠ []

namespace Numeral

/-- The characters of the number. -/
def text (m : Numeral) : List Char := m.blanks ++ m.digits

/-- The number. -/
def number (m : Numeral) : Nat := value m.digits

/-- A reader of so many digits stops behind the number, whatever it could still take. -/
def StopsBefore (m : Numeral) (width : Nat) (rest : List Char) : Prop :=
  m.digits.length = width ∨ NoLeadingDigit rest

/-- A number has digits, so the digits before it end there only if white space stands between. -/
theorem noLeadingDigit_text (m : Numeral) (rest : List Char) :
    NoLeadingDigit (m.text ++ rest) ↔ m.blanks ≠ [] := by
  cases hb : m.blanks with
  | nil =>
    obtain ⟨d, ds, hd⟩ := List.exists_cons_of_ne_nil m.digits_ne_nil
    have hdigit : d.isDigit = true := m.allDigits_digits d (hd ▸ List.mem_cons_self ..)
    simp [text, hb, hd, noLeadingDigit_cons, hdigit]
  | cons b bs =>
    have hblank : isBlank b = true :=
      List.all_eq_true.1 m.isBlankText_blanks b (hb ▸ List.mem_cons_self ..)
    have hdigit : b.isDigit = false := by
      rw [← Bool.not_eq_true]
      intro hd
      rw [isBlank_of_isDigit hd] at hblank
      cases hblank
    simp [text, hb, noLeadingDigit_cons, hdigit]

theorem isDigit_of_digits_append {m : Numeral} {c : Char} {rest tail : List Char}
    (h : m.digits ++ rest = c :: tail) : c.isDigit = true := by
  obtain ⟨d, ds, hd⟩ := List.exists_cons_of_ne_nil m.digits_ne_nil
  rw [hd, List.cons_append] at h
  obtain ⟨rfl, -⟩ := List.cons.inj h
  exact m.allDigits_digits d (hd ▸ List.mem_cons_self ..)

/-- The digits behind a sign are read up to their end. -/
theorem readDigits?_length {m : Numeral} {rest : List Char} (h : NoLeadingDigit rest) :
    readDigits? (m.digits ++ rest).length (m.digits ++ rest) = some (m.number, rest) :=
  readDigits?_length_eq_some_iff.2 ⟨m.digits, m.digits_ne_nil, m.allDigits_digits, rfl, rfl, h⟩

end Numeral

theorem readNumber?_eq_some_iff {width n : Nat} {cs rest : List Char} :
    readNumber? width cs = some (n, rest) ↔
      ∃ m : Numeral, m.digits.length ≤ width ∧ m.StopsBefore width rest ∧
        cs = m.text ++ rest ∧ m.number = n := by
  rw [readNumber?, readDigits?_eq_some_iff]
  constructor
  · rintro ⟨ds, hne, hdigits, hlength, happend, hvalue, hend⟩
    obtain ⟨blanks, hblanks, hcs⟩ := exists_append_trimStart cs
    refine ⟨⟨blanks, ds, hblanks, hdigits, hne⟩, hlength, hend, ?_, hvalue⟩
    rw [hcs, happend, Numeral.text, List.append_assoc]
  · rintro ⟨m, hlength, hend, rfl, rfl⟩
    refine ⟨m.digits, m.digits_ne_nil, m.allDigits_digits, hlength, ?_, rfl, hend⟩
    rw [Numeral.text, List.append_assoc, trimStart_append m.isBlankText_blanks,
      trimStart_of_digits m.digits_ne_nil m.allDigits_digits]

/-! ## Years -/

/-- The sign that a year may have. -/
inductive Sign where
  | none
  | minus
  | plus
deriving DecidableEq

namespace Sign

/-- The characters of the sign. -/
def text : Sign → List Char
  | none => []
  | minus => ['-']
  | plus => ['+']

/-- The number with the sign. -/
def apply : Sign → Nat → Int
  | minus, n => -(n : Int)
  | _, n => n

end Sign

/-- The text is a year as a date text writes it, and then the rest, in which the digits of the year
do not go on. -/
def StartsWithYear (cs rest : List Char) (year : Int) : Prop :=
  ∃ (sign : Sign) (m : Numeral), (sign = .none → m.digits.length ≤ 4) ∧
    ((sign = .none ∧ m.digits.length = 4) ∨ NoLeadingDigit rest) ∧
      cs = m.blanks ++ (sign.text ++ m.digits) ++ rest ∧ sign.apply m.number = year

theorem startsWithYear_of_readYear? {year : Int} {cs rest : List Char}
    (h : readYear? cs = some (year, rest)) : StartsWithYear cs rest year := by
  obtain ⟨blanks, hblanks, hcs⟩ := exists_append_trimStart cs
  unfold readYear? at h
  split at h
  · next tail htrim =>
    obtain ⟨⟨n, r⟩, hread, hpair⟩ := Option.map_eq_some_iff.1 h
    obtain ⟨rfl, rfl⟩ := Prod.mk.inj hpair
    obtain ⟨ds, hne, hdigits, rfl, rfl, hend⟩ := readDigits?_length_eq_some_iff.1 hread
    refine ⟨.minus, ⟨blanks, ds, hblanks, hdigits, hne⟩, nofun, .inr hend, ?_, rfl⟩
    simpa [htrim, Sign.text] using hcs
  · next tail htrim =>
    obtain ⟨⟨n, r⟩, hread, hpair⟩ := Option.map_eq_some_iff.1 h
    obtain ⟨rfl, rfl⟩ := Prod.mk.inj hpair
    obtain ⟨ds, hne, hdigits, rfl, rfl, hend⟩ := readDigits?_length_eq_some_iff.1 hread
    refine ⟨.plus, ⟨blanks, ds, hblanks, hdigits, hne⟩, nofun, .inr hend, ?_, rfl⟩
    simpa [htrim, Sign.text] using hcs
  · obtain ⟨⟨n, r⟩, hread, hpair⟩ := Option.map_eq_some_iff.1 h
    obtain ⟨rfl, rfl⟩ := Prod.mk.inj hpair
    obtain ⟨ds, hne, hdigits, hlength, htrim, rfl, hend⟩ := readDigits?_eq_some_iff.1 hread
    refine ⟨.none, ⟨blanks, ds, hblanks, hdigits, hne⟩, fun _ => hlength,
      hend.imp_left fun h => ⟨rfl, h⟩, ?_, rfl⟩
    simpa [htrim, Sign.text] using hcs

theorem readYear?_of_startsWithYear {year : Int} {cs rest : List Char}
    (h : StartsWithYear cs rest year) : readYear? cs = some (year, rest) := by
  obtain ⟨sign, m, hlength, hend, rfl, rfl⟩ := h
  rw [readYear?, List.append_assoc, trimStart_append m.isBlankText_blanks]
  cases sign with
  | minus =>
    have hrest : NoLeadingDigit rest := hend.resolve_left nofun
    have htrim : trimStart (Sign.minus.text ++ m.digits ++ rest) = '-' :: (m.digits ++ rest) := rfl
    rw [htrim]
    simp only [Numeral.readDigits?_length hrest]
    rfl
  | plus =>
    have hrest : NoLeadingDigit rest := hend.resolve_left nofun
    have htrim : trimStart (Sign.plus.text ++ m.digits ++ rest) = '+' :: (m.digits ++ rest) := rfl
    rw [htrim]
    simp only [Numeral.readDigits?_length hrest]
    rfl
  | none =>
    have hread : readDigits? 4 (m.digits ++ rest) = some (m.number, rest) :=
      readDigits?_eq_some_iff.2 ⟨m.digits, m.digits_ne_nil, m.allDigits_digits, hlength rfl, rfl,
        rfl, hend.imp_left And.right⟩
    rw [Sign.text, List.nil_append, trimStart_of_digits m.digits_ne_nil m.allDigits_digits]
    -- A digit is no sign, so the text is read by the last case.
    split
    · next tail hhead => exact absurd (Numeral.isDigit_of_digits_append hhead) (by decide)
    · next tail hhead => exact absurd (Numeral.isDigit_of_digits_append hhead) (by decide)
    · rw [hread]
      rfl

/-! ## Whole texts -/

/-- A date text taken apart. -/
structure Spelling where
  sign : Sign
  year : Numeral
  month : Numeral
  day : Numeral
  hour : Numeral
  minute : Numeral

namespace Spelling

/-- The characters of the text. -/
def text (s : Spelling) : List Char :=
  s.year.blanks ++ (s.sign.text ++ s.year.digits) ++
    (s.month.text ++ (s.day.text ++ (s.hour.text ++ ':' :: s.minute.text)))

/-- The reader takes the text apart in this way: no number is longer than what is taken of it, and
none that is shorter goes on with the digits of the next one. -/
structure Readable (s : Spelling) : Prop where
  year_le : s.sign = .none → s.year.digits.length ≤ 4
  month_le : s.month.digits.length ≤ 2
  day_le : s.day.digits.length ≤ 2
  hour_le : s.hour.digits.length ≤ 2
  minute_le : s.minute.digits.length ≤ 2
  year_end : (s.sign = .none ∧ s.year.digits.length = 4) ∨ s.month.blanks ≠ []
  month_end : s.month.digits.length = 2 ∨ s.day.blanks ≠ []
  day_end : s.day.digits.length = 2 ∨ s.hour.blanks ≠ []

/-- The five numbers. -/
def parts (s : Spelling) : Int × Nat × Nat × Nat × Nat :=
  (s.sign.apply s.year.number, s.month.number, s.day.number, s.hour.number, s.minute.number)

end Spelling

theorem readParts?_text {s : Spelling} (h : s.Readable) : readParts? s.text = some s.parts := by
  have hyear : readYear? s.text =
      some (s.sign.apply s.year.number,
        s.month.text ++ (s.day.text ++ (s.hour.text ++ ':' :: s.minute.text))) :=
    readYear?_of_startsWithYear ⟨s.sign, s.year, h.year_le,
      h.year_end.imp_right (s.month.noLeadingDigit_text _).2, rfl, rfl⟩
  have hmonth := readNumber?_eq_some_iff.2 ⟨s.month, h.month_le,
    h.month_end.imp_right (s.day.noLeadingDigit_text (s.hour.text ++ ':' :: s.minute.text)).2,
    rfl, rfl⟩
  have hday := readNumber?_eq_some_iff.2 ⟨s.day, h.day_le,
    h.day_end.imp_right (s.hour.noLeadingDigit_text (':' :: s.minute.text)).2, rfl, rfl⟩
  have hhour : readNumber? 2 (s.hour.text ++ ':' :: s.minute.text) =
      some (s.hour.number, ':' :: s.minute.text) :=
    readNumber?_eq_some_iff.2 ⟨s.hour, h.hour_le, .inr (noLeadingDigit_cons.2 (by decide)),
      rfl, rfl⟩
  have hminute : readNumber? 2 s.minute.text = some (s.minute.number, []) :=
    readNumber?_eq_some_iff.2 ⟨s.minute, h.minute_le, .inr noLeadingDigit_nil,
      (List.append_nil _).symm, rfl⟩
  simp only [readParts?, hyear, hmonth, hday, hhour, hminute, Spelling.parts]

theorem exists_spelling_of_readParts? {cs : List Char} {parts : Int × Nat × Nat × Nat × Nat}
    (h : readParts? cs = some parts) :
    ∃ s : Spelling, s.Readable ∧ s.text = cs ∧ s.parts = parts := by
  unfold readParts? at h
  split at h
  · cases h
  next year afterYear hyear =>
  split at h
  · cases h
  next month afterMonth hmonth =>
  split at h
  · cases h
  next day afterDay hday =>
  split at h
  case h_2 => cases h
  next hour afterHour hhour =>
  split at h
  case h_2 => cases h
  next minute hminute =>
  obtain ⟨sign, y, hyle, hyend, rfl, rfl⟩ := startsWithYear_of_readYear? hyear
  obtain ⟨mo, hmole, hmoend, rfl, rfl⟩ := readNumber?_eq_some_iff.1 hmonth
  obtain ⟨d, hdle, hdend, rfl, rfl⟩ := readNumber?_eq_some_iff.1 hday
  obtain ⟨ho, hhole, -, rfl, rfl⟩ := readNumber?_eq_some_iff.1 hhour
  obtain ⟨mi, hmile, -, rfl, rfl⟩ := readNumber?_eq_some_iff.1 hminute
  refine ⟨⟨sign, y, mo, d, ho, mi⟩, ?_, ?_, Option.some.inj h⟩
  · exact ⟨hyle, hmole, hdle, hhole, hmile, hyend.imp_right (mo.noLeadingDigit_text _).1,
      hmoend.imp_right (d.noLeadingDigit_text _).1, hdend.imp_right (ho.noLeadingDigit_text _).1⟩
  · simp [Spelling.text]

/-- The texts read are those of the readable spellings, and what is read are their numbers. -/
theorem readParts?_eq_some_iff {cs : List Char} {parts : Int × Nat × Nat × Nat × Nat} :
    readParts? cs = some parts ↔ ∃ s : Spelling, s.Readable ∧ s.text = cs ∧ s.parts = parts := by
  constructor
  · exact exists_spelling_of_readParts?
  · rintro ⟨s, hs, rfl, rfl⟩
    exact readParts?_text hs

/-! ## Times -/

/-- The numbers of a time. -/
def partsOf (t : CalendarTime) : Int × Nat × Nat × Nat × Nat :=
  (t.year, t.month, t.day, t.hour, t.minute)

theorem parse?_eq_some_iff {value : String} {t : CalendarTime} :
    parse? value = some t ↔
      value.toList.length = canonicalLength ∧ readParts? value.toList = some (partsOf t) := by
  unfold parse? hasCanonicalLength
  by_cases hlength : value.toList.length = canonicalLength
  · cases hread : readParts? value.toList with
    | none => simp [hlength]
    | some parts =>
      obtain ⟨year, month, day, hour, minute⟩ := parts
      simp only [hlength, beq_self_eq_true, if_true, CalendarTime.ofParts?_eq_some_iff, partsOf,
        Option.some.injEq, Prod.mk.injEq, true_and]
      constructor <;> rintro ⟨rfl, rfl, rfl, rfl, rfl⟩ <;> exact ⟨rfl, rfl, rfl, rfl, rfl⟩
  · simp [hlength]

end PlumeForm.EruptionDate
