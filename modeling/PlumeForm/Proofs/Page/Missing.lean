import PlumeForm.Proofs.Page.Actions

/-!
# The first missing control

Controls are demanded in order, and the first one that a form lacks is the one that the failure
names (`Form.require_eq_error_iff`). What the first one of a list is, is said without computing it
(`IsFirst`), so that it can be said of any property.
-/

namespace PlumeForm

/-! ## The first entry with a property -/

section First

variable {α : Type} {P : α → Prop} {xs : List α} {x y : α}

/-- The entry of the list has the property, and none before it has. -/
def IsFirst (P : α → Prop) (xs : List α) (x : α) : Prop :=
  ∃ before after, xs = before ++ x :: after ∧ P x ∧ ∀ y ∈ before, ¬ P y

theorem IsFirst.mem (h : IsFirst P xs x) : x ∈ xs := by
  obtain ⟨before, after, rfl, -, -⟩ := h
  exact List.mem_append_right before List.mem_cons_self

@[simp] theorem not_isFirst_nil : ¬ IsFirst P [] x :=
  fun h => List.not_mem_nil h.mem

theorem isFirst_cons : IsFirst P (x :: xs) y ↔ P x ∧ y = x ∨ ¬ P x ∧ IsFirst P xs y := by
  constructor
  · rintro ⟨before, after, hxs, hy, hbefore⟩
    cases before with
    | nil =>
      cases hxs
      exact .inl ⟨hy, rfl⟩
    | cons z before =>
      cases hxs
      rw [List.forall_mem_cons] at hbefore
      exact .inr ⟨hbefore.1, before, after, rfl, hy, hbefore.2⟩
  · rintro (⟨hx, rfl⟩ | ⟨hx, before, after, rfl, hy, hbefore⟩)
    · exact ⟨[], xs, rfl, hx, by simp⟩
    · exact ⟨x :: before, after, rfl, hy, List.forall_mem_cons.2 ⟨hx, hbefore⟩⟩

theorem IsFirst.unique (hx : IsFirst P xs x) (hy : IsFirst P xs y) : x = y := by
  induction xs with
  | nil => exact absurd hx not_isFirst_nil
  | cons z xs ih =>
    rcases isFirst_cons.1 hx with ⟨hz, rfl⟩ | ⟨hz, hx⟩
    · rcases isFirst_cons.1 hy with ⟨-, rfl⟩ | ⟨hz', -⟩
      · rfl
      · exact absurd hz hz'
    · rcases isFirst_cons.1 hy with ⟨hz', -⟩ | ⟨-, hy⟩
      · exact absurd hz' hz
      · exact ih hx hy

end First

/-! ## Demanding controls -/

/-- A form that lacks a control of the list is refused for the first one that it lacks. -/
theorem Form.require_eq_error_iff {form : Form} {fields : List Field} {e : FormError} :
    form.require fields = .error e ↔
      ∃ f, IsFirst (fun f => form.has f = false) fields f ∧ e = .missingField f := by
  induction fields with
  | nil => simp [require]
  | cons f fs ih =>
    simp only [isFirst_cons]
    rw [require]
    cases hget : form.get f with
    | error e' =>
      obtain ⟨hmissing, rfl⟩ := get_eq_error_iff.1 hget
      constructor
      · intro h
        cases h
        exact ⟨f, .inl ⟨hmissing, rfl⟩, rfl⟩
      · rintro ⟨_, ⟨-, rfl⟩ | ⟨hthere, -⟩, rfl⟩
        · rfl
        · exact absurd hmissing hthere
    | ok text =>
      rw [ih]
      simp [has_of_get hget]

end PlumeForm
