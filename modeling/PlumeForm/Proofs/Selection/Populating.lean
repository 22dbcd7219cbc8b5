import PlumeForm.Proofs.Page.Missing
import PlumeForm.Proofs.Selection.Plan
import PlumeForm.Proofs.Volcano.Flat

/-!
# Populating from the selector

Populating needs a selection, a record at it and four controls, in this order, and `FirstFault` is
the first of them that is missing. Main statement: populating fails for the first fault and changes
nothing, or there is none and the numbers of the selected record are written to the four controls
and nowhere else (`populate_outcome`).
-/

namespace PlumeForm.Selection

variable {table : VolcanoTable} {form form' : Form} {volcano : Volcano} {e : FormError}

/-! ## The selected record -/

theorem chosenIn_eq_ok_iff :
    chosenIn table form = .ok volcano ↔
      ∃ index, form.selected = some index ∧ table.entries[index]? = some volcano := by
  unfold chosenIn
  cases form.selected with
  | none => simp
  | some index => simp

theorem exists_chosenIn_iff :
    (∃ volcano, chosenIn table form = .ok volcano) ↔
      ∃ index, form.selected = some index ∧ index < table.length := by
  simp only [chosenIn_eq_ok_iff]
  constructor
  · rintro ⟨volcano, index, hselected, hvolcano⟩
    exact ⟨index, hselected, (List.getElem?_eq_some_iff.1 hvolcano).1⟩
  · rintro ⟨index, hselected, hindex⟩
    exact ⟨_, index, hselected, List.getElem?_eq_getElem hindex⟩

theorem exists_plan_iff :
    (∃ volcano form', plan table form = .ok (volcano, form')) ↔
      (∃ index, form.selected = some index ∧ index < table.length) ∧
        ∀ f ∈ controls, form.has f = true := by
  simp only [plan_eq_ok_iff, ← exists_chosenIn_iff]
  constructor
  · rintro ⟨volcano, _, hchosen, hcontrols, -⟩
    exact ⟨⟨volcano, hchosen⟩, hcontrols⟩
  · rintro ⟨⟨volcano, hchosen⟩, hcontrols⟩
    exact ⟨volcano, _, hchosen, hcontrols, rfl⟩

/-! ## The first fault -/

/-- What keeps a form from being populated: no selection, a selection behind the end of the table,
or else the first control that the form lacks. -/
inductive FirstFault (table : VolcanoTable) (form : Form) : FormError → Prop
  | noSelection (hselected : form.selected = none) : FirstFault table form .noSelection
  | outOfRange {index : Nat} (hselected : form.selected = some index)
      (hrange : table.length ≤ index) :
    FirstFault table form (.selectionOutOfRange index table.length)
  | missing {index : Nat} {f : Field} (hselected : form.selected = some index)
      (hrange : index < table.length)
      (hfirst : IsFirst (fun f => form.has f = false) controls f) :
    FirstFault table form (.missingField f)

theorem plan_eq_error_iff : plan table form = .error e ↔ FirstFault table form e := by
  constructor
  · intro h
    rcases bind_eq_error_iff.1 h with h | ⟨volcano, hchosen, h⟩
    · rcases error_of_chosenIn h with ⟨hselected, rfl⟩ | ⟨index, hselected, hrange, rfl⟩
      · exact .noSelection hselected
      · exact .outOfRange hselected hrange
    · rcases bind_eq_error_iff.1 h with h | ⟨_, -, h⟩
      · obtain ⟨f, hfirst, rfl⟩ := Form.require_eq_error_iff.1 h
        obtain ⟨index, hselected, hrange⟩ := exists_chosenIn_iff.1 ⟨volcano, hchosen⟩
        exact .missing hselected hrange hfirst
      · cases h
  · intro h
    cases h with
    | noSelection hselected =>
      refine bind_eq_error_iff.2 (.inl ?_)
      rw [chosenIn, hselected]
    | outOfRange hselected hrange =>
      refine bind_eq_error_iff.2 (.inl ?_)
      rw [chosenIn, hselected]
      simp only [VolcanoTable.get, List.getElem?_eq_none hrange]
    | missing hselected hrange hfirst =>
      obtain ⟨volcano, hchosen⟩ := exists_chosenIn_iff.2 ⟨_, hselected, hrange⟩
      have hrequire := Form.require_eq_error_iff.2 ⟨_, hfirst, rfl⟩
      exact bind_eq_error_iff.2 (.inr ⟨volcano, hchosen, bind_eq_error_iff.2 (.inl hrequire)⟩)

/-! ## What is written -/

/-- The controls hold the numbers of the volcano, and nothing else has changed. -/
structure Filled (form form' : Form) (volcano : Volcano) : Prop where
  lat : form'.text? .lat = some (Decimal.fieldText volcano.lat)
  lon : form'.text? .lon = some (Decimal.fieldText volcano.lon)
  plumeMin : form'.text? .plumeMin = some (Decimal.fieldText volcano.plumeMin)
  area : form'.text? .area = some (Decimal.fieldText volcano.area)
  selected : form'.selected = form.selected
  others : ∀ f ∉ controls, form'.text? f = form.text? f
  has : ∀ f, form'.has f = form.has f

theorem filled_of_plan (h : plan table form = .ok (volcano, form')) :
    Filled form form' volcano := by
  obtain ⟨-, -, hform'⟩ := plan_eq_ok_iff.1 h
  obtain ⟨hlat, hlon, hplume, harea⟩ := text?_putAll_texts form volcano
  rw [← hform'] at hlat hlon hplume harea
  exact ⟨hlat, hlon, hplume, harea, selected_of_plan h, fun _ hf => text?_of_plan h hf,
    has_of_plan h⟩

/-- From a flat table, the texts are those of the numbers at the selected place of each block. -/
theorem Filled.of_ofFlat {names : List String} {values : List Float} {index : Nat}
    (h : Filled form form' volcano) (htable : VolcanoTable.ofFlat names values = .ok table)
    (hvolcano : table.entries[index]? = some volcano) :
    form'.text? .lat = values[index]?.map Decimal.fieldText ∧
      form'.text? .lon = values[index + table.length]?.map Decimal.fieldText ∧
      form'.text? .plumeMin = values[index + 2 * table.length]?.map Decimal.fieldText ∧
      form'.text? .area = values[index + 3 * table.length]?.map Decimal.fieldText := by
  obtain ⟨hlat, hlon, hplume, harea⟩ := VolcanoTable.numbers_of_ofFlat htable hvolcano
  rw [hlat, hlon, hplume, harea]
  exact ⟨h.lat, h.lon, h.plumeMin, h.area⟩

/-- Populating succeeds exactly if the selected index is one of the table and the form has the four
controls. It returns the record at that index, writes its numbers to the controls and changes
nothing else. Otherwise it fails for the first fault and changes nothing at all. From a flat table
of so many records, the numbers are as far apart in the list of numbers. -/
theorem populate_outcome (table : VolcanoTable) (form : Form) :
    ((∃ volcano form', (populate table).run.run form = (.ok volcano, form')) ↔
      (∃ index, form.selected = some index ∧ index < table.length) ∧
        ∀ f ∈ [Field.lat, .lon, .plumeMin, .area], form.has f = true) ∧
    (∀ volcano form', (populate table).run.run form = (.ok volcano, form') →
      (∃ index, form.selected = some index ∧ table.entries[index]? = some volcano) ∧
        Filled form form' volcano) ∧
    (∀ e form', (populate table).run.run form = (.error e, form') ↔
      FirstFault table form e ∧ form' = form) ∧
    ∀ names values index volcano form', VolcanoTable.ofFlat names values = .ok table →
      form.selected = some index → (populate table).run.run form = (.ok volcano, form') →
        form'.text? .lat = values[index]?.map Decimal.fieldText ∧
        form'.text? .lon = values[index + table.length]?.map Decimal.fieldText ∧
        form'.text? .plumeMin = values[index + 2 * table.length]?.map Decimal.fieldText ∧
        form'.text? .area = values[index + 3 * table.length]?.map Decimal.fieldText := by
  refine ⟨?_, fun volcano form' h => ?_, fun e form' => ?_, ?_⟩
  · simp only [populate_eq_ok_iff]
    exact exists_plan_iff
  · have hplan := populate_eq_ok_iff.1 h
    exact ⟨chosenIn_eq_ok_iff.1 (plan_eq_ok_iff.1 hplan).1, filled_of_plan hplan⟩
  · rw [populate_eq_error_iff, plan_eq_error_iff]
  · intro names values index volcano form' htable hselected h
    have hplan := populate_eq_ok_iff.1 h
    obtain ⟨_, hindex, hvolcano⟩ := chosenIn_eq_ok_iff.1 (plan_eq_ok_iff.1 hplan).1
    cases hselected.symm.trans hindex
    exact (filled_of_plan hplan).of_ofFlat htable hvolcano

/-- A flat table of two volcanoes. -/
def peaks : VolcanoTable :=
  ⟨VolcanoTable.ofBlocks ["Akutan", "Shishaldin"] [54.13, 54.75] [-165.97, -163.97] [1303, 2857]
    [0, 25]⟩

/-- The second volcano is selected, then one too many, and then the first one on a form that lacks
two of the controls. -/
theorem populate_outcome_peaks :
    VolcanoTable.ofFlat ["Akutan", "Shishaldin"]
        [54.13, 54.75, -165.97, -163.97, 1303, 2857, 0, 25] = .ok peaks ∧
      (∃ volcano form', (populate peaks).run.run (Form.run.select 1) = (.ok volcano, form') ∧
        volcano.name = "Shishaldin" ∧ form'.text? .lon = some "-163.97" ∧
          form'.text? .area = some "25") ∧
      (populate peaks).run.run (Form.run.select 2) =
        (.error (.selectionOutOfRange 2 2), Form.run.select 2) ∧
      (populate peaks).run.run ((Form.ofControls [.lon, .area]).select 0) =
        (.error (.missingField .lat), (Form.ofControls [.lon, .area]).select 0) := by
  have hflat : VolcanoTable.ofFlat ["Akutan", "Shishaldin"]
      [54.13, 54.75, -165.97, -163.97, 1303, 2857, 0, 25] = .ok peaks := rfl
  refine ⟨hflat, ?_, ?_, ?_⟩
  · obtain ⟨hok, hresult, -, hnumbers⟩ := populate_outcome peaks (Form.run.select 1)
    obtain ⟨volcano, form', h⟩ := hok.2 ⟨⟨1, rfl, by decide⟩, by decide⟩
    obtain ⟨⟨index, hindex, hvolcano⟩, -⟩ := hresult volcano form' h
    obtain ⟨-, hlon, -, harea⟩ := hnumbers _ _ 1 volcano form' hflat rfl h
    cases hindex
    cases hvolcano
    exact ⟨_, form', h, rfl, hlon.trans (by decide +kernel), harea.trans (by decide +kernel)⟩
  · obtain ⟨-, -, herror, -⟩ := populate_outcome peaks (Form.run.select 2)
    exact (herror _ _).2 ⟨.outOfRange rfl (by decide), rfl⟩
  · obtain ⟨-, -, herror, -⟩ := populate_outcome peaks ((Form.ofControls [.lon, .area]).select 0)
    refine (herror _ _).2 ⟨.missing rfl (by decide) ?_, rfl⟩
    exact isFirst_cons.2 (.inl ⟨rfl, rfl⟩)

end PlumeForm.Selection
