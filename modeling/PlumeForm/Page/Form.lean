import PlumeForm.FormError

/-!
# Forms

A form has a selector and some of the controls, each with a text. An action on a form (`FormAction`)
reads and writes controls and fails when one is missing; what it has written before it fails stays
written. Main statements: what `put` and `set` do to each control (`text?_put`, `set_eq_ok_iff`).
-/

namespace PlumeForm

/-- A form: the index that its selector shows, and the texts of the controls that it has. -/
structure Form where
  selected : Option Nat
  text? : Field → Option String

namespace Form

/-- The form with the given controls, all empty, and nothing selected. -/
def ofControls (controls : List Field) : Form :=
  ⟨none, fun f => if f ∈ controls then some "" else none⟩

/-- The empty run form. -/
def run : Form := ofControls Field.runControls

/-- The empty ash cloud form. -/
def ashxp : Form := ofControls [.image]

/-- The form with a text in a control, which is added when the form lacks it. -/
def put (form : Form) (field : Field) (text : String) : Form :=
  { form with text? := fun f => if f = field then some text else form.text? f }

/-- The text of a control that the form must have. -/
def get (form : Form) (field : Field) : Except FormError String :=
  match form.text? field with
  | some text => .ok text
  | none => .error (.missingField field)

/-- The form with a text in a control that it must have. -/
def set (form : Form) (field : Field) (text : String) : Except FormError Form :=
  match form.text? field with
  | some _ => .ok (form.put field text)
  | none => .error (.missingField field)

/-- The form with an entry of its selector chosen. -/
def select (form : Form) (index : Nat) : Form :=
  { form with selected := some index }

/-- The form has the control. -/
def has (form : Form) (field : Field) : Bool :=
  (form.text? field).isSome

/-- The controls of the form and their texts, in order. -/
def entries (form : Form) : List (Field × String) :=
  Field.all.filterMap fun f => (form.text? f).map fun text => (f, text)

@[ext] theorem ext {a b : Form} (hs : a.selected = b.selected)
    (ht : ∀ f, a.text? f = b.text? f) : a = b := by
  cases a
  cases b
  simp only [Form.mk.injEq]
  exact ⟨hs, funext ht⟩

@[simp] theorem selected_put (form : Form) (field : Field) (text : String) :
    (form.put field text).selected = form.selected := rfl

theorem text?_put (form : Form) (field : Field) (text : String) (f : Field) :
    (form.put field text).text? f = if f = field then some text else form.text? f := rfl

@[simp] theorem text?_put_self (form : Form) (field : Field) (text : String) :
    (form.put field text).text? field = some text := by
  simp [text?_put]

theorem text?_put_of_ne (form : Form) {field f : Field} (text : String) (h : f ≠ field) :
    (form.put field text).text? f = form.text? f := by
  simp [text?_put, h]

theorem get_eq_ok_iff {form : Form} {field : Field} {text : String} :
    form.get field = .ok text ↔ form.text? field = some text := by
  unfold get
  split <;> simp_all

theorem set_eq_ok_iff {form form' : Form} {field : Field} {text : String} :
    form.set field text = .ok form' ↔ form.has field = true ∧ form' = form.put field text := by
  unfold set has
  cases form.text? field <;> simp [eq_comm]

/-- Writing the text that a control has already changes nothing. -/
theorem put_text (form : Form) {field : Field} {text : String}
    (h : form.text? field = some text) : form.put field text = form := by
  refine ext rfl fun f => ?_
  rw [text?_put]
  split
  · next e => rw [e, h]
  · rfl

end Form

/-- An action on a form; what it has written before it fails stays written. -/
abbrev FormAction := ExceptT FormError (StateM Form)

namespace FormAction

/-- The text of a control. -/
def read (field : Field) : FormAction String := do
  (← get).get field

/-- A control gets a text. -/
def write (field : Field) (text : String) : FormAction Unit := do
  set (← (← get).set field text)

/-- The form must have each of the controls. -/
def demand : List Field → FormAction Unit
  | [] => pure ()
  | f :: fs => do
    let _ ← read f
    demand fs

/-- Each of the controls gets its text. -/
def writeAll : List (Field × String) → FormAction Unit
  | [] => pure ()
  | (f, text) :: rest => do
    write f text
    writeAll rest

end FormAction

end PlumeForm
