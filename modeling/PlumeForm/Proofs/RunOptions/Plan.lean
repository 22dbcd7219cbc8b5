import PlumeForm.Page.RunOptions
import PlumeForm.Proofs.Page.Actions

/-!
# What reconciling does

Reconciling reads six texts (`Texts`) and up to three numbers (`Hours`) before it writes, so it is
the same as a plan (`run_reconcile`): with the texts and numbers at hand, five conditional writes
(`settled`) and the report of four of their conditions (`adjustments`).
-/

namespace PlumeForm.RunOptions

/-! ## Hours -/

/-- The hours of a text that is a finite number, white space around it aside. -/
def hours? (text : String) : Option Float :=
  Decimal.readFinite? (Text.trim text.toList)

/-- The text is more than white space. -/
def IsGiven (text : String) : Prop :=
  Text.trim text.toList ≠ []

theorem isGiven_of_hours {text : String} {x : Float} (h : hours? text = some x) :
    IsGiven text := by
  intro hempty
  have hread := (Decimal.readFinite?_eq_some_iff.1 h).1
  rw [hempty, Decimal.read?_nil] at hread
  cases hread

theorem isFinite_of_hours {text : String} {x : Float} (h : hours? text = some x) :
    x.isFinite = true :=
  (Decimal.readFinite?_eq_some_iff.1 h).2

theorem hours_of_not_isGiven {text : String} (h : ¬ IsGiven text) : hours? text = none := by
  cases hx : hours? text with
  | none => rfl
  | some x => exact absurd (isGiven_of_hours hx) h

theorem readHours_of_not_isGiven {text : String} (field : Field) (h : ¬ IsGiven text) :
    readHours field text = .ok none :=
  if_pos (Classical.not_not.1 h)

theorem readHours_of_hours {text : String} {x : Float} (field : Field)
    (h : hours? text = some x) : readHours field text = .ok (some x) := by
  have hgiven : Text.trim text.toList ≠ [] := isGiven_of_hours h
  unfold hours? at h
  simp only [readHours, hgiven, if_false, h]

theorem readHours_of_hours_eq_none {text : String} (field : Field) (hgiven : IsGiven text)
    (h : hours? text = none) : readHours field text = .error (.invalidNumber field text) := by
  unfold IsGiven at hgiven
  unfold hours? at h
  simp only [readHours, hgiven, if_false, h]

/-- Hours are read from the texts that are finite numbers and from those that are not given. -/
theorem readHours_eq_ok_iff {field : Field} {text : String} {x : Option Float} :
    readHours field text = .ok x ↔ x = hours? text ∧ (IsGiven text → x.isSome = true) := by
  by_cases hgiven : IsGiven text
  · cases hx : hours? text with
    | none =>
      rw [readHours_of_hours_eq_none field hgiven hx]
      constructor
      · intro h
        cases h
      · rintro ⟨rfl, h⟩
        cases h hgiven
    | some y =>
      rw [readHours_of_hours field hx]
      constructor
      · intro h
        cases h
        exact ⟨rfl, fun _ => rfl⟩
      · rintro ⟨rfl, -⟩
        rfl
  · rw [readHours_of_not_isGiven field hgiven, hours_of_not_isGiven hgiven]
    constructor
    · intro h
      cases h
      exact ⟨rfl, fun h => absurd h hgiven⟩
    · rintro ⟨rfl, -⟩
      rfl

theorem isLess_eq_true_iff {run part : Option Float} :
    isLess run part = true ↔ ∃ x y, run = some x ∧ part = some y ∧ x < y := by
  cases run <;> cases part <;> simp [isLess]

/-! ## The plan -/

/-- The six texts that reconciling reads. -/
structure Texts where
  runHours : String
  eruptHours : String
  saveHours : String
  phiDist : String
  ashLogMean : String
  ashLogSdev : String

/-- The numbers of the three hour texts. -/
structure Hours where
  run : Option Float
  erupt : Option Float
  save : Option Float

/-- The controls that reconciling reads, in order. -/
def controls : List Field :=
  [.runHours, .eruptHours, .saveHours, .phiDist, .ashLogMean, .ashLogSdev]

/-- The texts of the six controls. -/
def readTexts (form : Form) : Except FormError Texts := do
  let runHours ← form.get .runHours
  let eruptHours ← form.get .eruptHours
  let saveHours ← form.get .saveHours
  let phiDist ← form.get .phiDist
  let ashLogMean ← form.get .ashLogMean
  let ashLogSdev ← form.get .ashLogSdev
  return ⟨runHours, eruptHours, saveHours, phiDist, ashLogMean, ashLogSdev⟩

/-- The numbers of the hour texts. -/
def readNumbers (t : Texts) : Except FormError Hours := do
  let run ← readHours .runHours t.runHours
  let erupt ← readHours .eruptHours t.eruptHours
  let save ← readHours .saveHours t.saveHours
  return ⟨run, erupt, save⟩

/-- What reconciling reports. -/
def adjustments (t : Texts) (h : Hours) : Adjustments :=
  ⟨isLess h.run h.erupt, isLess h.run h.save, t.phiDist ≠ "",
    t.phiDist = "" ∧ t.ashLogMean ≠ ""⟩

/-- The form after reconciling. -/
def settled (t : Texts) (h : Hours) (form : Form) : Form :=
  ((((form.putWhen (isLess h.run h.erupt) .eruptHours t.runHours).putWhen
    (isLess h.run h.save) .saveHours t.runHours).putWhen
    (t.phiDist ≠ "") .ashLogMean "").putWhen
    (t.phiDist ≠ "") .ashLogSdev "").putWhen
    (t.phiDist = "" ∧ t.ashLogMean ≠ "") .phiDist ""

/-- Reconciling, decided from the form before anything is written. -/
def plan (form : Form) : Except FormError (Adjustments × Form) := do
  let t ← readTexts form
  let h ← readNumbers t
  return (adjustments t h, settled t h form)

/-! ## Plans that succeed -/

theorem readTexts_eq_ok_iff {form : Form} {t : Texts} :
    readTexts form = .ok t ↔
      form.text? .runHours = some t.runHours ∧ form.text? .eruptHours = some t.eruptHours ∧
        form.text? .saveHours = some t.saveHours ∧ form.text? .phiDist = some t.phiDist ∧
          form.text? .ashLogMean = some t.ashLogMean ∧
            form.text? .ashLogSdev = some t.ashLogSdev := by
  simp only [readTexts, bind_eq_ok_iff, Form.get_eq_ok_iff]
  constructor
  · rintro ⟨_, hrun, _, herupt, _, hsave, _, hphi, _, hmean, _, hsdev, h⟩
    cases h
    exact ⟨hrun, herupt, hsave, hphi, hmean, hsdev⟩
  · rintro ⟨hrun, herupt, hsave, hphi, hmean, hsdev⟩
    exact ⟨_, hrun, _, herupt, _, hsave, _, hphi, _, hmean, _, hsdev, rfl⟩

theorem readNumbers_eq_ok_iff {t : Texts} {h : Hours} :
    readNumbers t = .ok h ↔
      readHours .runHours t.runHours = .ok h.run ∧
        readHours .eruptHours t.eruptHours = .ok h.erupt ∧
          readHours .saveHours t.saveHours = .ok h.save := by
  simp only [readNumbers, bind_eq_ok_iff]
  constructor
  · rintro ⟨_, hrun, _, herupt, _, hsave, h⟩
    cases h
    exact ⟨hrun, herupt, hsave⟩
  · rintro ⟨hrun, herupt, hsave⟩
    exact ⟨_, hrun, _, herupt, _, hsave, rfl⟩

/-- What a successful plan has found, and what it makes of it. -/
theorem plan_eq_ok_iff {form form' : Form} {a : Adjustments} :
    plan form = .ok (a, form') ↔
      ∃ t h, readTexts form = .ok t ∧ readNumbers t = .ok h ∧ a = adjustments t h ∧
        form' = settled t h form := by
  simp only [plan, bind_eq_ok_iff]
  constructor
  · rintro ⟨t, ht, h, hh, hresult⟩
    cases hresult
    exact ⟨t, h, ht, hh, rfl, rfl⟩
  · rintro ⟨t, h, ht, hh, rfl, rfl⟩
    exact ⟨t, ht, h, hh, rfl⟩

/-- Only the texts that may be rewritten change. -/
theorem text?_settled (t : Texts) (h : Hours) (form : Form) (f : Field) :
    (settled t h form).text? f =
      match f with
      | .eruptHours =>
        if isLess h.run h.erupt then some t.runHours else form.text? .eruptHours
      | .saveHours => if isLess h.run h.save then some t.runHours else form.text? .saveHours
      | .ashLogMean => if t.phiDist = "" then form.text? .ashLogMean else some ""
      | .ashLogSdev => if t.phiDist = "" then form.text? .ashLogSdev else some ""
      | .phiDist =>
        if t.phiDist = "" ∧ t.ashLogMean ≠ "" then some "" else form.text? .phiDist
      | f => form.text? f := by
  cases f <;> simp [settled, Form.text?_putWhen]

@[simp] theorem selected_settled (t : Texts) (h : Hours) (form : Form) :
    (settled t h form).selected = form.selected := by
  simp [settled]

/-- The controls that reconciling may rewrite. -/
def rewritten : List Field := [.eruptHours, .saveHours, .ashLogMean, .ashLogSdev]

/-- Every other control keeps its text. The distribution is written to only when it is empty. -/
theorem text?_of_plan {form form' : Form} {a : Adjustments} {f : Field}
    (h : plan form = .ok (a, form')) (hf : f ∉ rewritten) : form'.text? f = form.text? f := by
  obtain ⟨t, n, ht, -, -, rfl⟩ := plan_eq_ok_iff.1 h
  rw [text?_settled]
  cases f with
  | phiDist =>
    have hphi : form.text? .phiDist = some t.phiDist := (readTexts_eq_ok_iff.1 ht).2.2.2.1
    by_cases hempty : t.phiDist = ""
    · simp [hphi, hempty]
    · simp [hempty]
  | eruptHours | saveHours | ashLogMean | ashLogSdev => exact absurd (by decide) hf
  | _ => rfl

/-- Reconciling adds no control to the form: it has all six of them. -/
theorem has_of_plan {form form' : Form} {a : Adjustments} (h : plan form = .ok (a, form'))
    (f : Field) : form'.has f = form.has f := by
  by_cases hf : f ∈ rewritten
  · obtain ⟨t, n, ht, -, -, rfl⟩ := plan_eq_ok_iff.1 h
    obtain ⟨-, herupt, hsave, -, hmean, hsdev⟩ := readTexts_eq_ok_iff.1 ht
    rw [Form.has, Form.has, text?_settled]
    cases f with
    | eruptHours => simp only [herupt]; split <;> rfl
    | saveHours => simp only [hsave]; split <;> rfl
    | ashLogMean => simp only [hmean]; split <;> rfl
    | ashLogSdev => simp only [hsdev]; split <;> rfl
    | _ => exact absurd hf (by decide)
  · rw [Form.has, Form.has, text?_of_plan h hf]

theorem selected_of_plan {form form' : Form} {a : Adjustments} (h : plan form = .ok (a, form')) :
    form'.selected = form.selected := by
  obtain ⟨t, n, -, -, -, rfl⟩ := plan_eq_ok_iff.1 h
  exact selected_settled t n form

/-- The texts of the six controls are all of the form that reconciling looks at. -/
theorem plan_congr {a b : Form} (h : Form.AgreeOn controls a b) :
    SamePlan (Form.AgreeOn controls) (plan a) (plan b) := by
  have htexts : readTexts a = readTexts b := by
    simp only [readTexts, h.get (f := .runHours) (by decide),
      h.get (f := .eruptHours) (by decide), h.get (f := .saveHours) (by decide),
      h.get (f := .phiDist) (by decide), h.get (f := .ashLogMean) (by decide),
      h.get (f := .ashLogSdev) (by decide)]
  unfold plan
  rw [htexts]
  refine .bind _ fun t => .bind _ fun n => .ok (adjustments t n) ?_
  exact ((((h.putWhen _ _ _).putWhen _ _ _).putWhen _ _ _).putWhen _ _ _).putWhen _ _ _

/-! ## Plans that fail -/

/-- The texts can be read from the forms that have all six controls; otherwise the first one that is
missing is named. -/
theorem map_readTexts (form : Form) :
    (readTexts form).map (fun _ => ()) = form.require controls := by
  unfold readTexts controls
  simp only [Form.require]
  cases form.get .runHours with
  | error e => rfl
  | ok runHours =>
  cases form.get .eruptHours with
  | error e => rfl
  | ok eruptHours =>
  cases form.get .saveHours with
  | error e => rfl
  | ok saveHours =>
  cases form.get .phiDist with
  | error e => rfl
  | ok phiDist =>
  cases form.get .ashLogMean with
  | error e => rfl
  | ok ashLogMean =>
  cases form.get .ashLogSdev with
  | error e => rfl
  | ok ashLogSdev => rfl

/-- A text that cannot be read is given, and it is no number. -/
theorem error_of_readHours {field : Field} {text : String} {e : FormError}
    (h : readHours field text = .error e) :
    IsGiven text ∧ hours? text = none ∧ e = .invalidNumber field text := by
  by_cases hgiven : IsGiven text
  · cases hnumber : hours? text with
    | none =>
      rw [readHours_of_hours_eq_none field hgiven hnumber] at h
      cases h
      exact ⟨hgiven, rfl, rfl⟩
    | some x =>
      rw [readHours_of_hours field hnumber] at h
      cases h
  · rw [readHours_of_not_isGiven field hgiven] at h
    cases h

/-- The controls that hold numbers of hours. -/
def hourControls : List Field := [.runHours, .eruptHours, .saveHours]

theorem error_of_readNumbers {form : Form} {t : Texts} {e : FormError}
    (ht : readTexts form = .ok t) (h : readNumbers t = .error e) :
    ∃ f ∈ hourControls, ∃ text, form.text? f = some text ∧ IsGiven text ∧ hours? text = none ∧
      e = .invalidNumber f text := by
  obtain ⟨hrun, herupt, hsave, -⟩ := readTexts_eq_ok_iff.1 ht
  rcases bind_eq_error_iff.1 h with h | ⟨_, -, h⟩
  · exact ⟨.runHours, by decide, _, hrun, error_of_readHours h⟩
  · rcases bind_eq_error_iff.1 h with h | ⟨_, -, h⟩
    · exact ⟨.eruptHours, by decide, _, herupt, error_of_readHours h⟩
    · rcases bind_eq_error_iff.1 h with h | ⟨_, -, h⟩
      · exact ⟨.saveHours, by decide, _, hsave, error_of_readHours h⟩
      · cases h

/-- Where the numbers can be read, the text of each control of hours can. -/
theorem exists_readHours_of_readNumbers {form : Form} {t : Texts} {n : Hours}
    (ht : readTexts form = .ok t) (hn : readNumbers t = .ok n) {f : Field} (hf : f ∈ hourControls)
    {text : String} (htext : form.text? f = some text) : ∃ x, readHours f text = .ok x := by
  obtain ⟨hrun, herupt, hsave, -⟩ := readTexts_eq_ok_iff.1 ht
  obtain ⟨hrun', herupt', hsave'⟩ := readNumbers_eq_ok_iff.1 hn
  cases f with
  | runHours =>
    cases hrun.symm.trans htext
    exact ⟨_, hrun'⟩
  | eruptHours =>
    cases herupt.symm.trans htext
    exact ⟨_, herupt'⟩
  | saveHours =>
    cases hsave.symm.trans htext
    exact ⟨_, hsave'⟩
  | _ => exact absurd hf (by decide)

/-- Reconciling fails for want of a control or of a number. -/
theorem error_of_plan {form : Form} {e : FormError} (h : plan form = .error e) :
    (∃ f ∈ controls, form.has f = false ∧ e = .missingField f) ∨
      ∃ f ∈ hourControls, ∃ text, form.text? f = some text ∧ IsGiven text ∧ hours? text = none ∧
        e = .invalidNumber f text := by
  rcases bind_eq_error_iff.1 h with h | ⟨t, ht, h⟩
  · have hrequire : form.require controls = .error e := by
      rw [← map_readTexts, h]
      rfl
    exact Or.inl (Form.exists_missing_of_require hrequire)
  · rcases bind_eq_error_iff.1 h with h | ⟨_, -, h⟩
    · exact Or.inr (error_of_readNumbers ht h)
    · cases h

/-! ## Reconciling follows the plan -/

theorem run_writeWhen (condition : Bool) (field : Field) (text : String) (form : Form)
    (h : form.has field = true) :
    (writeWhen condition field text).run.run form =
      (.ok condition, form.putWhen condition field text) := by
  cases condition with
  | false => rfl
  | true =>
    simp only [writeWhen, if_true, run_bind, FormAction.run_write field text form h, run_pure,
      Form.putWhen]

theorem run_separateDistributions (phiDist ashLogMean : String) (form : Form)
    (hphi : form.has .phiDist = true) (hmean : form.has .ashLogMean = true)
    (hsdev : form.has .ashLogSdev = true) :
    (separateDistributions phiDist ashLogMean).run.run form =
      (.ok (phiDist ≠ "", phiDist = "" ∧ ashLogMean ≠ ""),
        ((form.putWhen (phiDist ≠ "") .ashLogMean "").putWhen (phiDist ≠ "") .ashLogSdev
          "").putWhen (phiDist = "" ∧ ashLogMean ≠ "") .phiDist "") := by
  by_cases h : phiDist = ""
  · subst h
    simp only [separateDistributions, ne_eq, not_true_eq_false, if_false, run_bind,
      run_writeWhen _ .phiDist "" form hphi, run_pure]
    simp [Form.putWhen]
  · have hwrite := FormAction.run_writeAll [(.ashLogMean, ""), (.ashLogSdev, "")] form
      (by simp [hmean, hsdev])
    simp only [separateDistributions, ne_eq, h, not_false_eq_true, if_true, run_bind, hwrite,
      run_pure]
    simp [Form.putWhen, Form.putAll]

/-- Reconciling gives what the plan says, and an error leaves the form as it was. -/
theorem run_reconcile (form : Form) : reconcile.run.run form = settle form (plan form) := by
  unfold reconcile plan readTexts readNumbers
  simp only [bind_assoc, pure_bind]
  refine run_look_bind (FormAction.run_read _ form) fun runText hrun => ?_
  refine run_look_bind (FormAction.run_read _ form) fun eruptText herupt => ?_
  refine run_look_bind (FormAction.run_read _ form) fun saveText hsave => ?_
  refine run_look_bind (FormAction.run_read _ form) fun phiDist hphi => ?_
  refine run_look_bind (FormAction.run_read _ form) fun ashLogMean hmean => ?_
  refine run_look_bind (FormAction.run_read _ form) fun ashLogSdev hsdev => ?_
  refine run_look_bind (run_lift _ form) fun run _ => ?_
  refine run_look_bind (run_lift _ form) fun erupt _ => ?_
  refine run_look_bind (run_lift _ form) fun save _ => ?_
  -- Every write finds its control, since the writes before it take none away.
  have keeps : ∀ {f : Field} {text : String}, form.get f = .ok text →
      (form.putWhen (isLess run erupt) .eruptHours runText).has f = true :=
    fun h => Form.has_putWhen_of_has _ _ _ (Form.has_of_get h)
  have keeps' : ∀ {f : Field} {text : String}, form.get f = .ok text →
      ((form.putWhen (isLess run erupt) .eruptHours runText).putWhen (isLess run save)
        .saveHours runText).has f = true :=
    fun h => Form.has_putWhen_of_has _ _ _ (keeps h)
  simp only [run_bind, run_writeWhen _ _ _ form (Form.has_of_get herupt),
    run_writeWhen _ _ _ _ (keeps hsave),
    run_separateDistributions _ _ _ (keeps' hphi) (keeps' hmean) (keeps' hsdev), run_pure]
  rfl

theorem reconcile_eq_ok_iff {form form' : Form} {a : Adjustments} :
    reconcile.run.run form = (.ok a, form') ↔ plan form = .ok (a, form') := by
  rw [run_reconcile, settle_eq_ok_iff]

theorem reconcile_eq_error_iff {form form' : Form} {e : FormError} :
    reconcile.run.run form = (.error e, form') ↔ plan form = .error e ∧ form' = form := by
  rw [run_reconcile, settle_eq_error_iff]

end PlumeForm.RunOptions
