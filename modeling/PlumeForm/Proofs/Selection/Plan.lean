import PlumeForm.Page.Selection
import PlumeForm.Proofs.Page.Actions

/-!
# What choosing a volcano does

Populating looks at the selector, at the table and for four controls before it writes, so it is the
same as a plan (`run_populate`).
-/

namespace PlumeForm.Selection

/-- The selected volcano, when there is one. -/
def chosenIn (table : VolcanoTable) (form : Form) : Except FormError Volcano :=
  match form.selected with
  | some index => table.get index
  | none => .error .noSelection

/-- Populating, decided from the form before anything is written. -/
def plan (table : VolcanoTable) (form : Form) : Except FormError (Volcano × Form) := do
  let volcano ← chosenIn table form
  form.require controls
  return (volcano, form.putAll (texts volcano))

/-- Moving the selector to its last entry. -/
def unknownPlan (form : Form) : Nat → Except FormError (Unit × Form)
  | 0 => .error .noUnknownEntry
  | count + 1 => .ok ((), form.select count)

/-- The controls that a volcano fills are the ones that populating demands. -/
theorem map_texts (volcano : Volcano) : (texts volcano).map (·.1) = controls := rfl

/-- The texts of the four controls that a volcano fills. -/
theorem text?_putAll_texts (form : Form) (volcano : Volcano) :
    let filled := form.putAll (texts volcano)
    filled.text? .lat = some (Decimal.fieldText volcano.lat) ∧
      filled.text? .lon = some (Decimal.fieldText volcano.lon) ∧
      filled.text? .plumeMin = some (Decimal.fieldText volcano.plumeMin) ∧
      filled.text? .area = some (Decimal.fieldText volcano.area) :=
  ⟨rfl, rfl, rfl, rfl⟩

/-! ## Plans that succeed -/

theorem plan_eq_ok_iff {table : VolcanoTable} {form form' : Form} {volcano : Volcano} :
    plan table form = .ok (volcano, form') ↔
      chosenIn table form = .ok volcano ∧ (∀ f ∈ controls, form.has f = true) ∧
        form' = form.putAll (texts volcano) := by
  simp only [plan, bind_eq_ok_iff, ← Form.require_eq_ok_iff]
  constructor
  · rintro ⟨_, hchosen, _, hrequire, h⟩
    cases h
    exact ⟨hchosen, hrequire, rfl⟩
  · rintro ⟨hchosen, hrequire, rfl⟩
    exact ⟨volcano, hchosen, (), hrequire, rfl⟩

/-- Populating leaves every other control alone. -/
theorem text?_of_plan {table : VolcanoTable} {form form' : Form} {volcano : Volcano} {f : Field}
    (h : plan table form = .ok (volcano, form')) (hf : f ∉ controls) :
    form'.text? f = form.text? f := by
  obtain ⟨-, -, rfl⟩ := plan_eq_ok_iff.1 h
  exact Form.text?_putAll_of_not_mem hf

/-- Populating adds no control to the form. -/
theorem has_of_plan {table : VolcanoTable} {form form' : Form} {volcano : Volcano}
    (h : plan table form = .ok (volcano, form')) (f : Field) : form'.has f = form.has f := by
  obtain ⟨-, hcontrols, rfl⟩ := plan_eq_ok_iff.1 h
  refine Form.has_putAll_eq (fun entry hentry => hcontrols entry.1 ?_) f
  rw [← map_texts volcano]
  exact List.mem_map_of_mem hentry

/-- Populating moves no selector. -/
theorem selected_of_plan {table : VolcanoTable} {form form' : Form} {volcano : Volcano}
    (h : plan table form = .ok (volcano, form')) : form'.selected = form.selected := by
  obtain ⟨-, -, rfl⟩ := plan_eq_ok_iff.1 h
  exact Form.selected_putAll form _

/-- The selector and the four controls are all of the form that populating looks at. -/
theorem plan_congr {table table' : VolcanoTable} {a b : Form} (htable : table = table')
    (hselected : a.selected = b.selected) (htexts : Form.AgreeOn controls a b) :
    SamePlan (fun a b => a.selected = b.selected ∧ Form.AgreeOn controls a b) (plan table a)
      (plan table' b) := by
  subst htable
  unfold plan chosenIn
  rw [hselected, htexts.require]
  refine .bind _ fun volcano => .bind _ fun _ => .ok volcano ⟨?_, htexts.putAll (texts volcano)⟩
  rw [Form.selected_putAll, Form.selected_putAll, hselected]

/-! ## Plans that fail -/

theorem error_of_chosenIn {table : VolcanoTable} {form : Form} {e : FormError}
    (h : chosenIn table form = .error e) :
    form.selected = none ∧ e = .noSelection ∨
      ∃ index, form.selected = some index ∧ table.length ≤ index ∧
        e = .selectionOutOfRange index table.length := by
  unfold chosenIn VolcanoTable.get at h
  cases hselected : form.selected with
  | none =>
    rw [hselected] at h
    cases h
    exact Or.inl ⟨rfl, rfl⟩
  | some index =>
    rw [hselected] at h
    dsimp only at h
    split at h
    · cases h
    · next hnone =>
      cases h
      exact Or.inr ⟨index, rfl, List.getElem?_eq_none_iff.1 hnone, rfl⟩

/-- Populating fails for want of a selected volcano or of a control. -/
theorem error_of_plan {table : VolcanoTable} {form : Form} {e : FormError}
    (h : plan table form = .error e) :
    form.selected = none ∧ e = .noSelection ∨
      (∃ index, form.selected = some index ∧ table.length ≤ index ∧
        e = .selectionOutOfRange index table.length) ∨
      ∃ f ∈ controls, form.has f = false ∧ e = .missingField f := by
  rcases bind_eq_error_iff.1 h with h | ⟨volcano, -, h⟩
  · exact (error_of_chosenIn h).imp_right Or.inl
  · rcases bind_eq_error_iff.1 h with h | ⟨_, -, h⟩
    · exact Or.inr (Or.inr (Form.exists_missing_of_require h))
    · cases h

theorem error_of_unknownPlan {form : Form} {count : Nat} {e : FormError}
    (h : unknownPlan form count = .error e) : count = 0 ∧ e = .noUnknownEntry := by
  cases count with
  | zero =>
    cases h
    exact ⟨rfl, rfl⟩
  | succ count => cases h

/-! ## Populating follows the plan -/

theorem run_chosen (table : VolcanoTable) (form : Form) :
    (chosen table).run.run form = (chosenIn table form, form) := by
  simp only [chosen, chosenIn, run_bind, run_get]
  cases form.selected with
  | none => rfl
  | some index => rfl

/-- Populating gives what the plan says, and an error leaves the form as it was. -/
theorem run_populate (table : VolcanoTable) (form : Form) :
    (populate table).run.run form = settle form (plan table form) := by
  unfold populate plan
  refine run_look_bind (run_chosen table form) fun volcano _ => ?_
  refine run_look_bind (FormAction.run_demand controls form) fun _ hcontrols => ?_
  have hhas : ∀ entry ∈ texts volcano, form.has entry.1 = true := by
    intro entry hentry
    refine Form.require_eq_ok_iff.1 hcontrols entry.1 ?_
    rw [← map_texts volcano]
    exact List.mem_map_of_mem hentry
  rw [run_bind, FormAction.run_writeAll (texts volcano) form hhas]
  rfl

theorem populate_eq_ok_iff {table : VolcanoTable} {form form' : Form} {volcano : Volcano} :
    (populate table).run.run form = (.ok volcano, form') ↔
      plan table form = .ok (volcano, form') := by
  rw [run_populate, settle_eq_ok_iff]

theorem populate_eq_error_iff {table : VolcanoTable} {form form' : Form} {e : FormError} :
    (populate table).run.run form = (.error e, form') ↔
      plan table form = .error e ∧ form' = form := by
  rw [run_populate, settle_eq_error_iff]

theorem run_selectUnknown (count : Nat) (form : Form) :
    (selectUnknown count).run.run form = settle form (unknownPlan form count) := by
  cases count with
  | zero => rfl
  | succ count => rfl

end PlumeForm.Selection
