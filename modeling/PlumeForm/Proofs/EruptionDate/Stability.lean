import PlumeForm.Proofs.EruptionDate.Relative

/-!
# Dates that stay as they are

Normalising changes a text exactly if it is a compact date or a number of hours that leads to a
supported instant (`normalize_ne_iff`). Such a text has no space in it, and what becomes of it has
one, whatever its year. That is why a date that was rewritten once is left alone from then on, at
every time (`normalize_stable`).
-/

namespace PlumeForm.EruptionDate

open Text CalendarTime

/-- The text is a compact date, or a number of hours with a sign that leads from now to a supported
instant. -/
def Rewritable (cs : List Char) (now : Int) : Prop :=
  cs.length = 12 ∧ AllDigits cs ∨ isSigned cs = true ∧ ∃ seconds, LeadsOn cs now seconds

section Rewriting

variable {input : String} {now : Int}

theorem normalize_of_not_rewritable (h : ¬ Rewritable (trim input.toList) now) :
    normalize input now = input := by
  cases hsigned : isSigned (trim input.toList) with
  | true =>
    apply normalize_of_no_relative hsigned
    apply relative?_eq_none
    intro seconds hleads
    exact h (.inr ⟨hsigned, seconds, hleads⟩)
  | false =>
    apply normalize_of_neither hsigned
    apply Bool.eq_false_iff.2
    intro hcompact
    exact h (.inl (isCompact_iff.1 hcompact))

theorem Rewritable.space_not_mem {cs : List Char} (h : Rewritable cs now) : ' ' ∉ cs := by
  intro hspace
  rcases h with ⟨-, hdigits⟩ | ⟨-, seconds, hleads⟩
  · exact absurd (hdigits ' ' hspace) (by decide)
  · obtain ⟨t, ht⟩ := exists_contains hleads.2
    have hrelative := relative?_of_leadsOn hleads
    rw [relative?_of_space hspace, ofUnix?_of_contains ht] at hrelative
    cases hrelative

theorem Rewritable.space_mem_normalize (h : Rewritable (trim input.toList) now) :
    ' ' ∈ trim (normalize input now).toList := by
  rcases h with ⟨hlength, hdigits⟩ | ⟨hsigned, seconds, hleads⟩
  · obtain ⟨c, -, htext⟩ := exists_columns_of_compact hlength hdigits
    exact space_mem_trim_columns (htext now)
  · obtain ⟨t, -, hrender⟩ := exists_minute_of_leadsOn hsigned hleads
    rw [hrender]
    exact space_mem_trim_render t

/-- Exactly the rewritable texts are changed. -/
theorem normalize_ne_iff : normalize input now ≠ input ↔ Rewritable (trim input.toList) now := by
  constructor
  · intro hne
    by_contra h
    exact hne (normalize_of_not_rewritable h)
  · intro h heq
    have hspace := h.space_mem_normalize
    rw [heq] at hspace
    exact h.space_not_mem hspace

end Rewriting

/-- Normalising again changes nothing, and a text that was changed once is not changed again at any
other time either. Changed are exactly the compact dates and the numbers of hours with a sign that
lead from now to a supported instant. -/
theorem normalize_stable (input : String) (now later : Int) :
    normalize (normalize input now) now = normalize input now ∧
      (normalize input now ≠ input →
        normalize (normalize input now) later = normalize input now) ∧
      (normalize input now ≠ input ↔
        (trim input.toList).length = 12 ∧ AllDigits (trim input.toList) ∨
          isSigned (trim input.toList) = true ∧
            ∃ seconds, LeadsOn (trim input.toList) now seconds) := by
  refine ⟨normalize_normalize input now, ?_, normalize_ne_iff⟩
  intro hne
  have hspace := (normalize_ne_iff.1 hne).space_mem_normalize
  exact normalize_of_space hspace later

/-- A year of five digits begins with a plus sign, as an hour count does. -/
theorem normalize_stable_farYear :
    normalize " +90000000\n" 0 = "+12237 02 25 00:00" ∧
      normalize " +90000000\n" 0 ≠ " +90000000\n" ∧
      normalize "+12237 02 25 00:00" 1700000000 = "+12237 02 25 00:00" := by
  have hvalue : normalize " +90000000\n" 0 = "+12237 02 25 00:00" := by decide +kernel
  have hne : normalize " +90000000\n" 0 ≠ " +90000000\n" := by
    rw [hvalue]
    decide
  have hlater := (normalize_stable " +90000000\n" 0 1700000000).2.1 hne
  rw [hvalue] at hlater
  exact ⟨hvalue, hne, hlater⟩

end PlumeForm.EruptionDate
