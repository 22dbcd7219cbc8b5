import PlumeForm.Settings
import PlumeForm.Proofs.EruptionDate.Columns

/-!
# The strict check of dates

The strict check lets through sixteen characters that spell an existing time. Such a text need not
be the canonical one: fewer digits leave room for more white space, or for the sign of a year
(`loose_spelling_accepted`). `accepts_strict_spells` says which texts pass, and that the canonical
ones among them are those in columns.
-/

namespace PlumeForm.EruptionDate

/-- The text has the canonical length and is made of the numbers of the time: each behind white
space, the year with or without a sign, a colon before the minute and nothing else. -/
def Spells (value : String) (t : CalendarTime) : Prop :=
  value.toList.length = canonicalLength ∧
    ∃ s : Spelling, s.Readable ∧ s.text = value.toList ∧ s.parts = partsOf t

/-- The text is `dddd dd dd dd:dd`. -/
def InColumns (value : String) : Prop :=
  ∃ c : Columns, c.text = value.toList

theorem parse?_eq_some_iff_spells {value : String} {t : CalendarTime} :
    parse? value = some t ↔ Spells value t := by
  rw [parse?_eq_some_iff, readParts?_eq_some_iff, Spells]

/-- A text in columns denotes the numbers that stand there, and their rendering is the text. -/
theorem eq_render_of_columns {value : String} {t : CalendarTime} (h : parse? value = some t)
    (hcolumns : InColumns value) : value = render t := by
  obtain ⟨c, hc⟩ := hcolumns
  obtain ⟨-, hread⟩ := parse?_eq_some_iff.1 h
  have hparts : partsOf t = c.parts := by
    rw [← hc, readParts?_columns] at hread
    exact (Option.some.inj hread).symm
  rw [← String.toList_inj, render_eq_of_parts hparts, hc]

/-- A rendering that is accepted has the canonical length, so it is in columns. -/
theorem columns_of_eq_render {value : String} {t : CalendarTime} (h : parse? value = some t)
    (hrender : value = render t) : InColumns value := by
  obtain ⟨hlength, -⟩ := parse?_eq_some_iff.1 h
  rw [hrender] at hlength ⊢
  exact exists_columns_of_length_render hlength

/-- The strict check accepts exactly the spellings of existing times in sixteen characters, and
reads the time they spell. An accepted text is the canonical text of its time exactly if it is in
columns. -/
theorem accepts_strict_spells (value : String) :
    (DateCheck.strict.accepts value = true ↔ ∃ t, Spells value t) ∧
      ∀ t, (parse? value = some t ↔ Spells value t) ∧
        (parse? value = some t → (value = render t ↔ InColumns value)) := by
  refine ⟨?_, fun t => ⟨parse?_eq_some_iff_spells, fun h => ?_⟩⟩
  · rw [DateCheck.accepts, Option.isSome_iff_exists]
    exact exists_congr fun t => parse?_eq_some_iff_spells
  · exact ⟨columns_of_eq_render h, eq_render_of_columns h⟩

/-- White space may stand in the place of leading zeros. -/
theorem loose_spelling_accepted :
    ¬ ∀ value t, parse? value = some t → value = render t := by
  intro h
  have hparse : parse? "2024  1  1 12:34" =
      some ⟨2024, 1, 1, 12, 34, by decide⟩ := by decide +kernel
  exact absurd (h _ _ hparse) (by decide +kernel)

theorem accepts_strict_spells_newYear :
    DateCheck.strict.accepts "2024 01 01 12:34" = true ∧
      Spells "2024 01 01 12:34" ⟨2024, 1, 1, 12, 34, by decide⟩ ∧ InColumns "2024 01 01 12:34" := by
  have hparse : parse? "2024 01 01 12:34" =
      some ⟨2024, 1, 1, 12, 34, by decide⟩ := by decide +kernel
  obtain ⟨haccepts, hall⟩ := accepts_strict_spells "2024 01 01 12:34"
  obtain ⟨hspells, hcolumns⟩ := hall ⟨2024, 1, 1, 12, 34, by decide⟩
  exact ⟨haccepts.2 ⟨_, hspells.1 hparse⟩, hspells.1 hparse,
    (hcolumns hparse).1 (by decide +kernel)⟩

end PlumeForm.EruptionDate
