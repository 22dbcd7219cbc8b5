import PlumeForm.Settings
import PlumeForm.Proofs.Calendar.Instants
import PlumeForm.Proofs.EruptionDate.Canonical

/-!
# Relative dates

A number of hours with a sign stands for the minute that contains the instant so many seconds after
now. Normalising gives the canonical text of that minute when its year has four digits, and a text
that no check accepts when it has not. A text that begins with a sign and leads to no supported
instant stays as it is (`relative_date`).
-/

namespace PlumeForm.EruptionDate

open Text CalendarTime

/-- The text is a finite number of hours, and these are so many seconds, not too many for an
offset. -/
def IsOffset (cs : List Char) (seconds : Int) : Prop :=
  ∃ hours : Float, Decimal.readFinite? cs = some hours ∧ (hours * 3600.0).isFinite = true ∧
    Decimal.roundHalfAway (hours * 3600.0) = seconds ∧ seconds.natAbs ≤ longestOffset

theorem offset?_eq_some_iff {cs : List Char} {seconds : Int} :
    offset? cs = some seconds ↔ IsOffset cs seconds := by
  simp only [offset?, IsOffset, hoursToSeconds]
  cases Decimal.readFinite? cs with
  | none => simp
  | some hours =>
    simp only [Bool.and_eq_true, Option.some.injEq]
    constructor
    · intro h
      split at h
      · next haccepted =>
        cases h
        exact ⟨hours, rfl, haccepted.1, rfl, of_decide_eq_true haccepted.2⟩
      · cases h
    · rintro ⟨_, rfl, hfinite, rfl, hlong⟩
      rw [if_pos ⟨hfinite, decide_eq_true hlong⟩]

/-- The text is an offset that leads from now to an instant of a supported year. -/
def LeadsOn (cs : List Char) (now seconds : Int) : Prop :=
  IsOffset cs seconds ∧ IsSupported (now + seconds)

theorem relative?_of_leadsOn {cs : List Char} {now seconds : Int} (h : LeadsOn cs now seconds) :
    relative? cs now = ofUnix? (now + seconds) := by
  simp only [relative?, offset?_eq_some_iff.2 h.1]

theorem relative?_eq_none {cs : List Char} {now : Int} (h : ∀ seconds, ¬ LeadsOn cs now seconds) :
    relative? cs now = none := by
  simp only [relative?]
  split
  · next seconds hseconds =>
    apply ofUnix?_eq_none_iff.2
    intro hsupported
    exact h seconds ⟨offset?_eq_some_iff.1 hseconds, hsupported⟩
  · rfl

/-- What normalising makes of an offset is the rendering of the minute that it leads to. -/
theorem exists_minute_of_leadsOn {input : String} {now seconds : Int}
    (hsigned : isSigned (trim input.toList) = true)
    (h : LeadsOn (trim input.toList) now seconds) :
    ∃ t : CalendarTime, t.Contains (now + seconds) ∧ normalize input now = render t := by
  obtain ⟨t, ht⟩ := exists_contains h.2
  have hrelative : relative? (trim input.toList) now = some t := by
    rw [relative?_of_leadsOn h, ofUnix?_of_contains ht]
  exact ⟨t, ht, normalize_of_relative hsigned hrelative⟩

theorem not_accepts_of_length {value : String} (h : value.toList.length ≠ canonicalLength)
    (check : DateCheck) : check.accepts value = false := by
  have hlength : hasCanonicalLength value = false := by
    simpa [hasCanonicalLength] using h
  cases check with
  | length => exact hlength
  | strict => simp [DateCheck.accepts, parse?, hlength]

/-- A text that begins with a sign is an offset from now or stays as it is. As an offset that leads
to a supported instant, it becomes a text that is read as the minute around that instant, or, when
the year of that minute has not four digits, one that has not the canonical length and passes no
check. A smaller offset is never read as a later minute. -/
theorem relative_date (input : String) (now : Int)
    (hsigned : isSigned (trim input.toList) = true) :
    (∀ seconds, LeadsOn (trim input.toList) now seconds →
      ∃ t : CalendarTime, t.Contains (now + seconds) ∧
        (0 ≤ t.year ∧ t.year ≤ 9999 → parse? (normalize input now) = some t) ∧
        (¬ (0 ≤ t.year ∧ t.year ≤ 9999) →
          (normalize input now).toList.length ≠ canonicalLength ∧
          ∀ check : DateCheck, check.accepts (normalize input now) = false)) ∧
    (∀ other seconds otherSeconds, isSigned (trim other.toList) = true →
      LeadsOn (trim input.toList) now seconds → LeadsOn (trim other.toList) now otherSeconds →
      seconds ≤ otherSeconds → ∀ t t' : CalendarTime, parse? (normalize input now) = some t →
        parse? (normalize other now) = some t' → ¬ t'.IsEarlier t) ∧
    ((∀ seconds, ¬ LeadsOn (trim input.toList) now seconds) → normalize input now = input) := by
  refine ⟨?_, ?_, ?_⟩
  · intro seconds hleads
    obtain ⟨t, ht, hrender⟩ := exists_minute_of_leadsOn hsigned hleads
    rw [hrender]
    refine ⟨t, ht, ?_, ?_⟩
    · rintro ⟨hlow, hhigh⟩
      exact parse?_render hlow hhigh
    · intro hyear
      have hlength := mt length_render_iff.1 hyear
      exact ⟨hlength, not_accepts_of_length hlength⟩
  -- Each text is read as the minute around its own instant, and minutes follow their instants.
  · intro other seconds otherSeconds hother hleads hotherLeads hle t t' ht ht'
    obtain ⟨minute, hminute, hrender⟩ := exists_minute_of_leadsOn hsigned hleads
    obtain ⟨minute', hminute', hrender'⟩ := exists_minute_of_leadsOn hother hotherLeads
    rw [hrender, parse?_render_iff] at ht
    rw [hrender', parse?_render_iff] at ht'
    rw [ht.2, ht'.2]
    exact not_isEarlier_of_le hminute hminute' (Int.add_le_add_left hle now)
  · intro hnone
    exact normalize_of_no_relative hsigned (relative?_eq_none hnone)

/-- One and a half hours before 1970, six hours after its start, a year of five digits, and a text
that is no number. -/
theorem relative_date_epoch :
    isSigned (trim " -1.5".toList) = true ∧ LeadsOn (trim " -1.5".toList) 0 (-5400) ∧
      parse? (normalize " -1.5" 0) = some ⟨1969, 12, 31, 22, 30, by decide⟩ ∧
      LeadsOn (trim "+6".toList) 0 21600 ∧ (-5400 : Int) ≤ 21600 ∧
      (∀ t, parse? (normalize "+6" 0) = some t →
        ¬ t.IsEarlier ⟨1969, 12, 31, 22, 30, by decide⟩) ∧
      LeadsOn (trim "+90000000".toList) 0 324000000000 ∧
      DateCheck.length.accepts (normalize "+90000000" 0) = false ∧
      normalize " +soon" 0 = " +soon" := by
  have hleads : ∀ {cs seconds}, offset? cs = some seconds → IsSupported (0 + seconds) →
      LeadsOn cs 0 seconds := fun hoffset hsupported => ⟨offset?_eq_some_iff.1 hoffset, hsupported⟩
  have hback : LeadsOn (trim " -1.5".toList) 0 (-5400) :=
    hleads (by decide +kernel) (by unfold IsSupported; decide)
  have hahead : LeadsOn (trim "+6".toList) 0 21600 :=
    hleads (by decide +kernel) (by unfold IsSupported; decide)
  have hfar : LeadsOn (trim "+90000000".toList) 0 324000000000 :=
    hleads (by decide +kernel) (by unfold IsSupported; decide)
  have hsoon : ∀ seconds, ¬ LeadsOn (trim " +soon".toList) 0 seconds := by
    rintro seconds ⟨hoffset, -⟩
    have hnone : offset? (trim " +soon".toList) = none := by decide +kernel
    rw [← offset?_eq_some_iff, hnone] at hoffset
    cases hoffset
  obtain ⟨hminute, horder, -⟩ := relative_date " -1.5" 0 (by decide)
  have hread : parse? (normalize " -1.5" 0) = some ⟨1969, 12, 31, 22, 30, by decide⟩ := by
    obtain ⟨t, ht, hread, -⟩ := hminute (-5400) hback
    have hfound : ofUnix? (0 + -5400) = some ⟨1969, 12, 31, 22, 30, by decide⟩ := by decide
    rw [ofUnix?_of_contains ht, Option.some.injEq] at hfound
    subst hfound
    exact hread (by decide)
  have hrejected : DateCheck.length.accepts (normalize "+90000000" 0) = false := by
    obtain ⟨t, ht, -, hfive⟩ := (relative_date "+90000000" 0 (by decide)).1 324000000000 hfar
    have hfound : (ofUnix? (0 + 324000000000)).map (·.year) = some 12237 := by decide
    rw [ofUnix?_of_contains ht, Option.map_some, Option.some.injEq] at hfound
    exact (hfive (by omega)).2 .length
  exact ⟨by decide, hback, hread, hahead, by decide,
    fun t ht => horder "+6" _ _ (by decide) hback hahead (by decide) _ t hread ht, hfar, hrejected,
    (relative_date " +soon" 0 (by decide)).2.2 hsoon⟩

end PlumeForm.EruptionDate
