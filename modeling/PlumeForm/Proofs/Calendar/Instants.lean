import PlumeForm.Proofs.Calendar.Days

/-!
# Instants and minutes

A minute of the calendar contains the sixty seconds from its start on. The minute computed for an
instant is the one that contains it (`ofUnix?_eq_some_iff`), also before 1970, and there is one
exactly for the instants of the supported years (`ofUnix?_eq_none_iff`). Minutes follow each other
in time as their numbers do, the year counting most (`toUnix_lt_of_isEarlier`).
-/

namespace PlumeForm.CalendarTime

open Calendar

/-! ## Starts of minutes -/

/-- How many days of the year are over. -/
def dayOfYear (t : CalendarTime) : Nat :=
  ((monthLengths (isLeap t.year)).take (t.month - 1)).sum + (t.day - 1)

/-- How many minutes of the day are over. -/
def minuteOfDay (t : CalendarTime) : Nat := t.hour * 60 + t.minute

theorem toUnix_eq (t : CalendarTime) :
    t.toUnix =
      ((daysBeforeYear t.year + t.dayOfYear - daysBeforeEpoch) * 1440 + t.minuteOfDay) * 60 := by
  obtain ⟨-, -, -, -, hday, -, -, -⟩ := t.valid
  have hsum : ∀ lengths : List Nat, lengths.foldr (· + ·) 0 = lengths.sum := fun _ => rfl
  simp only [toUnix, dayOfYear, minuteOfDay, hsum]
  omega

theorem day_lt_getD (t : CalendarTime) :
    t.day - 1 < (monthLengths (isLeap t.year)).getD (t.month - 1) 0 := by
  obtain ⟨-, -, hmonth, -, hday, hlast, -, -⟩ := t.valid
  have hne : t.month ≠ 0 := by omega
  rw [daysInMonth, if_neg hne] at hlast
  omega

theorem dayOfYear_lt (t : CalendarTime) :
    t.dayOfYear < (monthLengths (isLeap t.year)).sum :=
  sum_take_add_lt_sum t.day_lt_getD

theorem minuteOfDay_lt (t : CalendarTime) : t.minuteOfDay < 1440 := by
  obtain ⟨-, -, -, -, -, -, hhour, hminute⟩ := t.valid
  simp only [minuteOfDay]
  omega

/-! ## The minute of an instant -/

/-- The instant lies in the minute. -/
def Contains (t : CalendarTime) (seconds : Int) : Prop :=
  t.toUnix ≤ seconds ∧ seconds < t.toUnix + 60

/-- The instant at which the first supported year starts. -/
def firstInstant : Int := (daysBeforeYear firstYear - daysBeforeEpoch) * 86400

/-- The instant at which the last supported year is over. -/
def endInstant : Int := (daysBeforeYear (lastYear + 1) - daysBeforeEpoch) * 86400

/-- The instant lies in a supported year. -/
def IsSupported (seconds : Int) : Prop := firstInstant ≤ seconds ∧ seconds < endInstant

/-- The day of an instant. -/
def dayOf (seconds : Int) : Int := seconds / 60 / 1440 + daysBeforeEpoch

theorem isSupported_iff_year {seconds : Int} :
    IsSupported seconds ↔
      firstYear ≤ yearOfDay (dayOf seconds) ∧ yearOfDay (dayOf seconds) ≤ lastYear := by
  obtain ⟨hlow, hhigh⟩ := daysBeforeYear_yearOfDay (dayOf seconds)
  simp only [IsSupported, firstInstant, endInstant]
  generalize yearOfDay (dayOf seconds) = year at hlow hhigh
  simp only [dayOf] at hlow hhigh
  constructor
  · rintro ⟨hfirst, hend⟩
    constructor
    · apply Int.not_lt.1
      intro hlt
      have := daysBeforeYear_mono (show year + 1 ≤ firstYear from hlt)
      omega
    · apply Int.not_lt.1
      intro hlt
      have := daysBeforeYear_mono (show lastYear + 1 ≤ year from hlt)
      omega
  · rintro ⟨hfirst, hlast⟩
    have hstart := daysBeforeYear_mono hfirst
    have hend := daysBeforeYear_mono (Int.add_le_add_right hlast 1)
    omega

theorem ofUnix?_of_contains {t : CalendarTime} {seconds : Int} (h : t.Contains seconds) :
    ofUnix? seconds = some t := by
  obtain ⟨hstart, hend⟩ := h
  rw [toUnix_eq] at hstart hend
  have hdayOfYear := t.dayOfYear_lt
  have hminuteOfDay := t.minuteOfDay_lt
  obtain ⟨-, -, hmonth, -, hday, -, -, hminute⟩ := t.valid
  have hminutes : seconds / 60 =
      (daysBeforeYear t.year + t.dayOfYear - daysBeforeEpoch) * 1440 + t.minuteOfDay := by omega
  have hdays : seconds / 60 / 1440 + daysBeforeEpoch = daysBeforeYear t.year + t.dayOfYear := by
    omega
  have hofDay : (seconds / 60 % 1440).toNat = t.minuteOfDay := by omega
  have hyear : yearOfDay (daysBeforeYear t.year + t.dayOfYear) = t.year := by
    rw [yearOfDay_eq_iff, daysBeforeYear_succ]
    omega
  have hrest : (daysBeforeYear t.year + t.dayOfYear - daysBeforeYear t.year).toNat =
      t.dayOfYear := by omega
  have hsplit : splitMonths (monthLengths (isLeap t.year)) t.dayOfYear = (t.month - 1, t.day - 1) :=
    splitMonths_take t.day_lt_getD
  have hhour : t.minuteOfDay / 60 = t.hour := by simp only [minuteOfDay]; omega
  have hminuteOfHour : t.minuteOfDay % 60 = t.minute := by simp only [minuteOfDay]; omega
  simp only [ofUnix?, hdays, hofDay, hyear, hrest, hsplit, hhour, hminuteOfHour,
    Nat.sub_add_cancel hmonth, Nat.sub_add_cancel hday]
  exact ofParts?_self t

/-- Every instant of a supported year lies in a minute of it. -/
theorem exists_contains {seconds : Int} (h : IsSupported seconds) :
    ∃ t : CalendarTime, t.Contains seconds := by
  obtain ⟨hfirst, hlast⟩ := isSupported_iff_year.1 h
  obtain ⟨hlow, hhigh⟩ := daysBeforeYear_yearOfDay (dayOf seconds)
  rw [daysBeforeYear_succ] at hhigh
  generalize yearOfDay (dayOf seconds) = year at hfirst hlast hlow hhigh
  simp only [dayOf] at hlow hhigh
  -- What is left of the year's days is split into months, and what is left of those is the day.
  obtain ⟨month, rest, hrest, hsum⟩ : ∃ month rest : Nat,
      rest < (monthLengths (isLeap year)).getD month 0 ∧
        ((monthLengths (isLeap year)).take month).sum + rest =
          (seconds / 60 / 1440 + daysBeforeEpoch - daysBeforeYear year).toNat :=
    ⟨_, _, splitMonths_spec (by omega)⟩
  have hmonth : month < 12 := by
    apply Nat.lt_of_not_le
    intro hle
    have hlength : (monthLengths (isLeap year)).length ≤ month := hle
    simp [hlength] at hrest
  have hvalid : Exists year (month + 1) (rest + 1) ((seconds / 60 % 1440).toNat / 60)
      ((seconds / 60 % 1440).toNat % 60) :=
    ⟨hfirst, hlast, by omega, by omega, by omega, hrest, by omega, by omega⟩
  refine ⟨⟨year, month + 1, rest + 1, _, _, hvalid⟩, ?_⟩
  rw [Contains, toUnix_eq]
  simp only [dayOfYear, minuteOfDay, Nat.add_sub_cancel]
  omega

theorem isSupported_of_contains {t : CalendarTime} {seconds : Int} (h : t.Contains seconds) :
    IsSupported seconds := by
  obtain ⟨hstart, hend⟩ := h
  rw [toUnix_eq] at hstart hend
  have hdayOfYear := t.dayOfYear_lt
  have hminuteOfDay := t.minuteOfDay_lt
  have hyear : yearOfDay (dayOf seconds) = t.year := by
    rw [yearOfDay_eq_iff, daysBeforeYear_succ, dayOf]
    omega
  rw [isSupported_iff_year, hyear]
  exact ⟨t.valid.1, t.valid.2.1⟩

/-- The minute computed for an instant is the one that contains it. -/
theorem ofUnix?_eq_some_iff {seconds : Int} {t : CalendarTime} :
    ofUnix? seconds = some t ↔ t.Contains seconds := by
  constructor
  · intro h
    have hsupported : IsSupported seconds := by
      obtain ⟨hyear, -⟩ := ofParts?_eq_some_iff.1 h
      rw [isSupported_iff_year, dayOf, ← hyear]
      exact ⟨t.valid.1, t.valid.2.1⟩
    obtain ⟨found, hfound⟩ := exists_contains hsupported
    rw [ofUnix?_of_contains hfound] at h
    cases h
    exact hfound
  · exact ofUnix?_of_contains

theorem ofUnix?_eq_none_iff {seconds : Int} :
    ofUnix? seconds = none ↔ ¬ IsSupported seconds := by
  constructor
  · intro h hsupported
    obtain ⟨t, ht⟩ := exists_contains hsupported
    rw [ofUnix?_of_contains ht] at h
    cases h
  · intro h
    cases hfound : ofUnix? seconds with
    | none => rfl
    | some t => exact absurd (isSupported_of_contains (ofUnix?_eq_some_iff.1 hfound)) h

example : ofUnix? (-8334601228801) = none ∧ ofUnix? 8210266876800 = none := by decide

/-! ## The order of minutes -/

/-- The minute comes first in the calendar: by year, then month, day, hour and minute. -/
def IsEarlier (a b : CalendarTime) : Prop :=
  a.year < b.year ∨ a.year = b.year ∧ (a.month < b.month ∨ a.month = b.month ∧
    (a.day < b.day ∨ a.day = b.day ∧ (a.hour < b.hour ∨ a.hour = b.hour ∧ a.minute < b.minute)))

theorem toUnix_lt_of_isEarlier {a b : CalendarTime} (h : a.IsEarlier b) :
    a.toUnix < b.toUnix := by
  have hdayOfYear := a.dayOfYear_lt
  have hminuteOfDay := a.minuteOfDay_lt
  rw [toUnix_eq, toUnix_eq]
  rcases h with hyear | ⟨hyear, h⟩
  · have hyears := daysBeforeYear_mono (show a.year + 1 ≤ b.year from hyear)
    rw [daysBeforeYear_succ] at hyears
    omega
  rw [hyear]
  rcases h with hmonth | ⟨hmonth, h⟩
  · have hday : a.dayOfYear < b.dayOfYear := by
      have hlast := a.day_lt_getD
      have hbefore : a.month - 1 < b.month - 1 := by
        have := a.valid.2.2.1
        omega
      have hmonths := sum_take_add_getD_le (monthLengths (isLeap a.year)) hbefore
      simp only [dayOfYear, ← hyear]
      omega
    omega
  rcases h with hday | ⟨hday, h⟩
  · have hday : a.dayOfYear < b.dayOfYear := by
      have := a.valid.2.2.2.2.1
      simp only [dayOfYear, hyear, hmonth]
      omega
    omega
  have hsame : a.dayOfYear = b.dayOfYear := by
    simp only [dayOfYear, hyear, hmonth, hday]
  have hminutes : a.minuteOfDay < b.minuteOfDay := by
    have := a.valid.2.2.2.2.2.2.2
    simp only [minuteOfDay]
    omega
  omega

/-- A later instant does not lie in an earlier minute. -/
theorem not_isEarlier_of_le {a b : CalendarTime} {first second : Int} (ha : a.Contains first)
    (hb : b.Contains second) (h : first ≤ second) : ¬ b.IsEarlier a := by
  intro hearlier
  have hminutes : b.toUnix + 60 ≤ a.toUnix := by
    have hlt := toUnix_lt_of_isEarlier hearlier
    rw [toUnix_eq, toUnix_eq] at hlt ⊢
    omega
  obtain ⟨hfirst, -⟩ := ha
  obtain ⟨-, hsecond⟩ := hb
  omega

end PlumeForm.CalendarTime
