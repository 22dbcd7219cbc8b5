import PlumeForm.Page.Basic

/-!
# Running actions

An action on a form or on a page runs from a state to a result and the state after it. The lemmas
here run the parts that actions are made of. An action that checks everything before it writes is
the same as a plan: an error, or a result and the state afterwards. `settle` runs a plan, and a
failed one leaves the state as it was.
-/

namespace PlumeForm

/-! ## The parts of every action -/

section Runs

variable {ε σ α β : Type}

/-- What follows an action runs from where the action ended; a failure ends both. -/
theorem run_bind (action : ExceptT ε (StateM σ) α) (next : α → ExceptT ε (StateM σ) β)
    (state : σ) :
    (action >>= next).run.run state =
      match action.run.run state with
      | (.ok a, after) => (next a).run.run after
      | (.error e, after) => (.error e, after) := by
  change (ExceptT.bindCont next (action.run.run state).1).run (action.run.run state).2 = _
  rcases action.run.run state with ⟨result, after⟩
  cases result with
  | ok a => rfl
  | error e => rfl

theorem run_pure (a : α) (state : σ) :
    (pure a : ExceptT ε (StateM σ) α).run.run state = (.ok a, state) := rfl

theorem run_throw (e : ε) (state : σ) :
    (throw e : ExceptT ε (StateM σ) α).run.run state = (.error e, state) := rfl

theorem run_get (state : σ) :
    (get : ExceptT ε (StateM σ) σ).run.run state = (.ok state, state) := rfl

theorem run_set (after state : σ) :
    (set after : ExceptT ε (StateM σ) PUnit).run.run state = (.ok ⟨⟩, after) := rfl

theorem run_modify (f : σ → σ) (state : σ) :
    (modify f : ExceptT ε (StateM σ) PUnit).run.run state = (.ok ⟨⟩, f state) := rfl

theorem run_lift (result : Except ε α) (state : σ) :
    (liftM result : ExceptT ε (StateM σ) α).run.run state = (result, state) := rfl

/-- The result of a plan, and the state after it. -/
def settle (state : σ) : Except ε (α × σ) → Except ε α × σ
  | .ok (a, after) => (.ok a, after)
  | .error e => (.error e, state)

theorem settle_eq_ok_iff {state after : σ} {plan : Except ε (α × σ)} {a : α} :
    settle state plan = (.ok a, after) ↔ plan = .ok (a, after) := by
  cases plan with
  | ok result => simp [settle, Prod.ext_iff]
  | error e => simp [settle]

theorem settle_eq_error_iff {state after : σ} {plan : Except ε (α × σ)} {e : ε} :
    settle state plan = (.error e, after) ↔ plan = .error e ∧ after = state := by
  cases plan with
  | ok result => simp [settle]
  | error e' => simp [settle, eq_comm]

/-- As long as an action only looks at the state, it follows its plan step by step. -/
theorem run_look_bind {look : ExceptT ε (StateM σ) α} {next : α → ExceptT ε (StateM σ) β}
    {state : σ} {result : Except ε α} {plan : α → Except ε (β × σ)}
    (hlook : look.run.run state = (result, state))
    (h : ∀ a, result = .ok a → (next a).run.run state = settle state (plan a)) :
    (look >>= next).run.run state = settle state (result >>= plan) := by
  rw [run_bind, hlook]
  cases hresult : result with
  | ok a => exact h a hresult
  | error e => rfl

/-- Two plans fail alike, or they have one result and end in related states. -/
inductive SamePlan (R : σ → σ → Prop) : Except ε (α × σ) → Except ε (α × σ) → Prop
  | ok (a : α) {s t : σ} (h : R s t) : SamePlan R (.ok (a, s)) (.ok (a, t))
  | error (e : ε) : SamePlan R (.error e) (.error e)

/-- Two plans that begin with one look go on as they do from what it finds. -/
theorem SamePlan.bind {R : σ → σ → Prop} (result : Except ε α)
    {plan plan' : α → Except ε (β × σ)} (h : ∀ a, SamePlan R (plan a) (plan' a)) :
    SamePlan R (result >>= plan) (result >>= plan') := by
  cases result with
  | error e => exact .error e
  | ok a => exact h a

theorem bind_eq_ok_iff {result : Except ε α} {next : α → Except ε β} {b : β} :
    (result >>= next) = .ok b ↔ ∃ a, result = .ok a ∧ next a = .ok b := by
  cases result with
  | error e =>
    constructor
    · intro h
      cases h
    · rintro ⟨a, h, -⟩
      cases h
  | ok a =>
    constructor
    · intro h
      exact ⟨a, rfl, h⟩
    · rintro ⟨_, ha, h⟩
      cases ha
      exact h

theorem bind_eq_error_iff {result : Except ε α} {next : α → Except ε β} {e : ε} :
    (result >>= next) = .error e ↔
      result = .error e ∨ ∃ a, result = .ok a ∧ next a = .error e := by
  cases result with
  | error e' =>
    constructor
    · intro h
      cases h
      exact Or.inl rfl
    · rintro (h | ⟨a, ha, -⟩)
      · cases h
        rfl
      · cases ha
  | ok a =>
    constructor
    · intro h
      exact Or.inr ⟨a, rfl, h⟩
    · rintro (h | ⟨_, ha, h⟩)
      · cases h
      · cases ha
        exact h

end Runs

/-! ## Forms -/

namespace Form

/-- The form with each of the texts in its control. -/
def putAll (form : Form) (entries : List (Field × String)) : Form :=
  entries.foldl (fun f entry => f.put entry.1 entry.2) form

/-- The form with a text in a control, when the condition holds. -/
def putWhen (form : Form) (condition : Bool) (field : Field) (text : String) : Form :=
  if condition then form.put field text else form

/-- The first of the controls that the form lacks, as a failure. -/
def require (form : Form) : List Field → Except FormError Unit
  | [] => .ok ()
  | f :: fs =>
    match form.get f with
    | .ok _ => form.require fs
    | .error e => .error e

@[simp] theorem has_put_self (form : Form) (field : Field) (text : String) :
    (form.put field text).has field = true := by
  simp [has]

/-- Writing to a control takes none away. -/
theorem has_put_of_has {form : Form} {f : Field} (field : Field) (text : String)
    (h : form.has f = true) : (form.put field text).has f = true := by
  rw [has, text?_put]
  split
  · rfl
  · exact h

theorem has_of_get {form : Form} {field : Field} {text : String}
    (h : form.get field = .ok text) : form.has field = true := by
  rw [has, get_eq_ok_iff.1 h]
  rfl

/-- Writing to a control that is there adds none. -/
theorem has_put_eq {form : Form} {field : Field} (h : form.has field = true) (text : String)
    (f : Field) : (form.put field text).has f = form.has f := by
  by_cases hf : f = field
  · subst hf
    rw [has_put_self, h]
  · rw [has, has, text?_put_of_ne form text hf]

/-- Writing to controls that are there adds none. -/
theorem has_putAll_eq {form : Form} {entries : List (Field × String)}
    (h : ∀ entry ∈ entries, form.has entry.1 = true) (f : Field) :
    (form.putAll entries).has f = form.has f := by
  induction entries generalizing form with
  | nil => rfl
  | cons entry rest ih =>
    rw [List.forall_mem_cons] at h
    have hrest : ∀ other ∈ rest, (form.put entry.1 entry.2).has other.1 = true :=
      fun other hother => has_put_of_has entry.1 entry.2 (h.2 other hother)
    calc (form.putAll (entry :: rest)).has f
        = (form.put entry.1 entry.2).has f := ih hrest
      _ = form.has f := has_put_eq h.1 entry.2 f

/-- Of two texts written to one control, the second one stays. -/
@[simp] theorem put_put (form : Form) (field : Field) (first second : String) :
    (form.put field first).put field second = form.put field second := by
  refine ext rfl fun f => ?_
  rw [text?_put, text?_put, text?_put]
  split <;> rfl

/-- Only the controls that are written to change. -/
theorem text?_putAll_of_not_mem {form : Form} {entries : List (Field × String)} {f : Field}
    (h : f ∉ entries.map (·.1)) : (form.putAll entries).text? f = form.text? f := by
  induction entries generalizing form with
  | nil => rfl
  | cons entry rest ih =>
    simp only [List.map_cons, List.mem_cons, not_or] at h
    calc (form.putAll (entry :: rest)).text? f
        = (form.put entry.1 entry.2).text? f := ih h.2
      _ = form.text? f := text?_put_of_ne form entry.2 h.1

theorem text?_putWhen (form : Form) (condition : Bool) (field : Field) (text : String)
    (f : Field) :
    (form.putWhen condition field text).text? f =
      if condition = true ∧ f = field then some text else form.text? f := by
  cases condition with
  | false => simp [putWhen]
  | true => simp [putWhen, text?_put]

@[simp] theorem selected_putWhen (form : Form) (condition : Bool) (field : Field)
    (text : String) : (form.putWhen condition field text).selected = form.selected := by
  cases condition <;> rfl

theorem has_putWhen_of_has {form : Form} {f : Field} (condition : Bool) (field : Field)
    (text : String) (h : form.has f = true) :
    (form.putWhen condition field text).has f = true := by
  cases condition with
  | false => exact h
  | true => exact has_put_of_has field text h

theorem get_eq_error_iff {form : Form} {field : Field} {e : FormError} :
    form.get field = .error e ↔ form.has field = false ∧ e = .missingField field := by
  rw [get, has]
  cases form.text? field with
  | none => simp [eq_comm]
  | some text => simp

theorem set_of_has {form : Form} {field : Field} (h : form.has field = true) (text : String) :
    form.set field text = .ok (form.put field text) :=
  set_eq_ok_iff.2 ⟨h, rfl⟩

/-- A form that has every control passes. -/
theorem require_eq_ok_iff {form : Form} {fields : List Field} :
    form.require fields = .ok () ↔ ∀ f ∈ fields, form.has f = true := by
  induction fields with
  | nil => simp [require]
  | cons f fs ih =>
    rw [require, List.forall_mem_cons, has, get]
    cases form.text? f with
    | none => simp
    | some text => simpa using ih

/-- A form that does not pass lacks the control that the failure names. -/
theorem exists_missing_of_require {form : Form} {fields : List Field} {e : FormError}
    (h : form.require fields = .error e) :
    ∃ f ∈ fields, form.has f = false ∧ e = .missingField f := by
  induction fields with
  | nil => cases h
  | cons f fs ih =>
    rw [require] at h
    cases hf : form.get f with
    | error e' =>
      rw [hf] at h
      cases h
      exact ⟨f, List.mem_cons_self, get_eq_error_iff.1 hf⟩
    | ok text =>
      rw [hf] at h
      obtain ⟨g, hg, hmissing⟩ := ih h
      exact ⟨g, List.mem_cons_of_mem f hg, hmissing⟩

/-- The two forms have the same texts in the controls. -/
def AgreeOn (fields : List Field) (a b : Form) : Prop :=
  ∀ f ∈ fields, a.text? f = b.text? f

theorem AgreeOn.get {fields : List Field} {a b : Form} (h : AgreeOn fields a b) {f : Field}
    (hf : f ∈ fields) : a.get f = b.get f := by
  rw [Form.get, Form.get, h f hf]

theorem AgreeOn.require {fields : List Field} {a b : Form} (h : AgreeOn fields a b) :
    a.require fields = b.require fields := by
  induction fields with
  | nil => rfl
  | cons f fs ih =>
    have hrest : AgreeOn fs a b := fun g hg => h g (List.mem_cons_of_mem f hg)
    rw [Form.require, Form.require, h.get List.mem_cons_self, ih hrest]

theorem AgreeOn.put {fields : List Field} {a b : Form} (h : AgreeOn fields a b) (field : Field)
    (text : String) : AgreeOn fields (a.put field text) (b.put field text) := by
  intro f hf
  rw [text?_put, text?_put, h f hf]

theorem AgreeOn.putAll {fields : List Field} {a b : Form} (h : AgreeOn fields a b)
    (entries : List (Field × String)) :
    AgreeOn fields (a.putAll entries) (b.putAll entries) := by
  induction entries generalizing a b with
  | nil => exact h
  | cons entry rest ih => exact ih (h.put entry.1 entry.2)

theorem AgreeOn.putWhen {fields : List Field} {a b : Form} (h : AgreeOn fields a b)
    (condition : Bool) (field : Field) (text : String) :
    AgreeOn fields (a.putWhen condition field text) (b.putWhen condition field text) := by
  cases condition with
  | false => exact h
  | true => exact h.put field text

@[simp] theorem selected_putAll (form : Form) (entries : List (Field × String)) :
    (form.putAll entries).selected = form.selected := by
  induction entries generalizing form with
  | nil => rfl
  | cons entry rest ih => exact ih (form.put entry.1 entry.2)

end Form

/-! ## Form actions -/

namespace FormAction

theorem run_read (field : Field) (form : Form) :
    (read field).run.run form = (form.get field, form) := rfl

theorem run_write (field : Field) (text : String) (form : Form) (h : form.has field = true) :
    (write field text).run.run form = (.ok (), form.put field text) := by
  simp only [write, run_bind, run_get, run_lift, run_set, Form.set_of_has h]

theorem run_demand (fields : List Field) (form : Form) :
    (demand fields).run.run form = (form.require fields, form) := by
  induction fields with
  | nil => rfl
  | cons f fs ih =>
    rw [demand, run_bind, run_read, Form.require]
    cases form.get f with
    | error e => rfl
    | ok text => exact ih

/-- On a form that has the controls, all of the texts are written. -/
theorem run_writeAll (entries : List (Field × String)) (form : Form)
    (h : ∀ entry ∈ entries, form.has entry.1 = true) :
    (writeAll entries).run.run form = (.ok (), form.putAll entries) := by
  induction entries generalizing form with
  | nil => rfl
  | cons entry rest ih =>
    obtain ⟨field, text⟩ := entry
    rw [List.forall_mem_cons] at h
    rw [writeAll, run_bind, run_write field text form h.1]
    exact ih _ fun other hother => Form.has_put_of_has field text (h.2 other hother)

end FormAction

/-! ## Page actions on the run form -/

theorem PageAction.run_onRunForm {α : Type} (action : FormAction α) (page : Page) :
    (PageAction.onRunForm action).run.run page =
      ((action.run.run page.runForm).1,
        { page with runForm := (action.run.run page.runForm).2 }) := by
  simp only [PageAction.onRunForm, run_bind, run_get]
  rcases action.run.run page.runForm with ⟨result, form⟩
  simp only [run_bind, run_set, run_lift]

end PlumeForm
