import PlumeForm.Proofs.Decimal.Overflow
import PlumeForm.Proofs.Page.Missing
import PlumeForm.Proofs.RunOptions.Agreement

/-!
# Which forms cannot be reconciled

A form may lack controls and may hold several texts that are no hours. `FirstFault` is the one that
reconciling names: the first control that is missing or, with all of them there, the first text that
is no hours. Main statement: reconciling succeeds on the forms without a fault, fails on the others
for the first one, and then leaves the form as it was (`reconcile_first_fault`).
-/

namespace PlumeForm.RunOptions

/-! ## Hours -/

/-- The text is white space or, white space around it aside, a decimal literal that does not
overflow. -/
def IsHours (text : String) : Prop :=
  Text.trim text.toList = [] ∨
    ∃ l : Decimal.Literal, l.text = Text.trim text.toList ∧ l.value < Decimal.overflow

theorem isSome_hours_iff {text : String} :
    (hours? text).isSome = true ↔
      ∃ l : Decimal.Literal, l.text = Text.trim text.toList ∧ l.value < Decimal.overflow := by
  simp only [hours?, Option.isSome_iff_exists, Decimal.readFinite?_eq_some_iff_literal,
    ← Decimal.Literal.isFinite_toFloat_iff]
  constructor
  · rintro ⟨_, l, hl, rfl, hfinite⟩
    exact ⟨l, hl, hfinite⟩
  · rintro ⟨l, hl, hfinite⟩
    exact ⟨_, l, hl, rfl, hfinite⟩

theorem isReadable_iff_isHours {text : String} : IsReadable text ↔ IsHours text := by
  rw [IsReadable, isSome_hours_iff, IsHours, IsGiven, ne_eq, or_iff_not_imp_left]

/-- What is read as infinite or as no number is no hours. -/
theorem not_isHours_of_read? {text : String} {x : Float}
    (h : Decimal.read? (Text.trim text.toList) = some x) (hx : x.isFinite = false) :
    ¬ IsHours text := by
  rintro (hempty | ⟨l, hl, hlt⟩)
  · rw [hempty, Decimal.read?_nil] at h
    cases h
  · rw [← hl, l.read?_text] at h
    cases h
    rw [l.isFinite_toFloat_iff.2 hlt] at hx
    cases hx

theorem isHours_iff_of_literal {text : String} {l : Decimal.Literal}
    (h : l.text = Text.trim text.toList) : IsHours text ↔ l.value < Decimal.overflow := by
  constructor
  · intro hhours
    rw [← l.isFinite_toFloat_iff]
    by_contra hinfinite
    refine not_isHours_of_read? ?_ (Bool.eq_false_iff.2 hinfinite) hhours
    rw [← h, l.read?_text]
  · intro hlt
    exact .inr ⟨l, h, hlt⟩

theorem readHours_eq_error_iff {field : Field} {text : String} {e : FormError} :
    readHours field text = .error e ↔ ¬ IsHours text ∧ e = .invalidNumber field text := by
  rw [← isReadable_iff_isHours]
  constructor
  · intro h
    obtain ⟨hgiven, hnone, he⟩ := error_of_readHours h
    refine ⟨fun hreadable => ?_, he⟩
    have hsome := hreadable hgiven
    rw [hnone] at hsome
    cases hsome
  · rintro ⟨hbad, rfl⟩
    obtain ⟨hgiven, hnone⟩ := Classical.not_imp.1 hbad
    exact readHours_of_hours_eq_none field hgiven
      (Option.not_isSome_iff_eq_none.1 hnone)

theorem exists_readHours_iff (field : Field) {text : String} :
    (∃ x, readHours field text = .ok x) ↔ IsHours text := by
  rw [← isReadable_iff_isHours]
  constructor
  · rintro ⟨x, hx⟩
    exact isReadable_of_readHours hx
  · intro h
    exact ⟨_, readHours_of_isReadable field h⟩

/-! ## Missing controls -/

theorem exists_readTexts_iff {form : Form} :
    (∃ t, readTexts form = .ok t) ↔ ∀ f ∈ controls, form.has f = true := by
  rw [← Form.require_eq_ok_iff, ← map_readTexts]
  cases readTexts form <;> simp [Except.map]

theorem readTexts_eq_error_iff {form : Form} {e : FormError} :
    readTexts form = .error e ↔
      ∃ f, IsFirst (fun f => form.has f = false) controls f ∧ e = .missingField f := by
  rw [← Form.require_eq_error_iff, ← map_readTexts]
  cases readTexts form <;> simp [Except.map]

/-! ## Texts that are no hours -/

/-- The control holds a text that is no hours. -/
def HoldsNoHours (form : Form) (f : Field) : Prop :=
  ∃ text, form.text? f = some text ∧ ¬ IsHours text

/-- The failure names the first of the controls whose text is no hours, and the text as it stands
there. -/
def NamesFirst (form : Form) (fields : List Field) (e : FormError) : Prop :=
  ∃ f text, IsFirst (HoldsNoHours form) fields f ∧ form.text? f = some text ∧
    e = .invalidNumber f text

section Reading

variable {form : Form} {f : Field} {fields : List Field} {text : String} {e : FormError}

theorem holdsNoHours_iff (htext : form.text? f = some text) :
    HoldsNoHours form f ↔ ¬ IsHours text := by
  simp [HoldsNoHours, htext]

theorem namesFirst_cons (htext : form.text? f = some text) :
    NamesFirst form (f :: fields) e ↔
      ¬ IsHours text ∧ e = .invalidNumber f text ∨ IsHours text ∧ NamesFirst form fields e := by
  simp only [NamesFirst, isFirst_cons, holdsNoHours_iff htext, not_not]
  constructor
  · rintro ⟨g, other, ⟨hbad, rfl⟩ | ⟨hhours, hfirst⟩, hother, he⟩
    · cases htext.symm.trans hother
      exact .inl ⟨hbad, he⟩
    · exact .inr ⟨hhours, g, other, hfirst, hother, he⟩
  · rintro (⟨hbad, he⟩ | ⟨hhours, g, other, hfirst, hother, he⟩)
    · exact ⟨f, text, .inl ⟨hbad, rfl⟩, htext, he⟩
    · exact ⟨g, other, .inr ⟨hhours, hfirst⟩, hother, he⟩

/-- Hours are read from a text, or its control is named; then the others have their turn. -/
theorem bind_readHours_eq_error_iff {α : Type} {next : Option Float → Except FormError α}
    (htext : form.text? f = some text)
    (hnext : ∀ x, next x = .error e ↔ NamesFirst form fields e) :
    (readHours f text >>= next) = .error e ↔ NamesFirst form (f :: fields) e := by
  rw [bind_eq_error_iff, namesFirst_cons htext, readHours_eq_error_iff,
    ← exists_readHours_iff f]
  simp only [hnext, exists_and_right]

theorem readNumbers_eq_error_iff {t : Texts} (ht : readTexts form = .ok t) :
    readNumbers t = .error e ↔ NamesFirst form hourControls e := by
  obtain ⟨hrun, herupt, hsave, -⟩ := readTexts_eq_ok_iff.1 ht
  unfold readNumbers hourControls
  refine bind_readHours_eq_error_iff hrun fun run => ?_
  refine bind_readHours_eq_error_iff herupt fun erupt => ?_
  refine bind_readHours_eq_error_iff hsave fun save => ?_
  simp [NamesFirst, pure, Except.pure]

end Reading

/-! ## The first fault -/

/-- What keeps a form from being reconciled: the first control that it lacks or, if it lacks none,
the first text that is no hours. -/
inductive FirstFault (form : Form) : FormError → Prop
  | missing {f : Field} (hfirst : IsFirst (fun f => form.has f = false) controls f) :
    FirstFault form (.missingField f)
  | noHours {f : Field} {text : String} (hcontrols : ∀ f ∈ controls, form.has f = true)
      (hfirst : IsFirst (HoldsNoHours form) hourControls f) (htext : form.text? f = some text) :
    FirstFault form (.invalidNumber f text)

theorem plan_eq_error_iff {form : Form} {e : FormError} :
    plan form = .error e ↔ FirstFault form e := by
  unfold plan
  rw [bind_eq_error_iff, readTexts_eq_error_iff]
  constructor
  · rintro (⟨f, hfirst, rfl⟩ | ⟨t, ht, h⟩)
    · exact .missing hfirst
    · rcases bind_eq_error_iff.1 h with h | ⟨n, -, h⟩
      · obtain ⟨f, text, hfirst, htext, rfl⟩ := (readNumbers_eq_error_iff ht).1 h
        exact .noHours (exists_readTexts_iff.1 ⟨t, ht⟩) hfirst htext
      · cases h
  · intro h
    cases h with
    | missing hfirst => exact .inl ⟨_, hfirst, rfl⟩
    | noHours hcontrols hfirst htext =>
      obtain ⟨t, ht⟩ := exists_readTexts_iff.2 hcontrols
      have hnumbers := (readNumbers_eq_error_iff ht).2 ⟨_, _, hfirst, htext, rfl⟩
      exact .inr ⟨t, ht, bind_eq_error_iff.2 (.inl hnumbers)⟩

theorem exists_plan_iff {form : Form} :
    (∃ a form', plan form = .ok (a, form')) ↔
      (∀ f ∈ controls, form.has f = true) ∧
        ∀ f ∈ hourControls, ∀ text, form.text? f = some text → IsHours text := by
  constructor
  · rintro ⟨a, form', hplan⟩
    obtain ⟨t, n, ht, hn, -, -⟩ := plan_eq_ok_iff.1 hplan
    refine ⟨exists_readTexts_iff.1 ⟨t, ht⟩, fun f hf text htext => ?_⟩
    exact (exists_readHours_iff f).1 (exists_readHours_of_readNumbers ht hn hf htext)
  · rintro ⟨hcontrols, hhours⟩
    obtain ⟨t, ht⟩ := exists_readTexts_iff.2 hcontrols
    obtain ⟨hrun, herupt, hsave, -⟩ := readTexts_eq_ok_iff.1 ht
    have hreadable : ∀ f ∈ hourControls, ∀ text, form.text? f = some text → IsReadable text :=
      fun f hf text htext => isReadable_iff_isHours.2 (hhours f hf text htext)
    have hn : readNumbers t = .ok t.hours := readNumbers_eq_ok_iff_isReadable.2
      ⟨rfl, hreadable .runHours (by decide) _ hrun, hreadable .eruptHours (by decide) _ herupt,
        hreadable .saveHours (by decide) _ hsave⟩
    exact ⟨_, _, plan_eq_ok_iff.2 ⟨t, _, ht, hn, rfl, rfl⟩⟩

/-- Reconciling succeeds exactly on the forms that have the six controls and whose hour texts are
white space or decimal literals that do not overflow. On the others it fails for the first fault and
leaves the form as it was. A literal is a fault exactly from the overflow on, and so is whatever is
read as infinite or as no number. -/
theorem reconcile_first_fault (form : Form) :
    ((∃ a form', reconcile.run.run form = (.ok a, form')) ↔
      (∀ f ∈ [Field.runHours, .eruptHours, .saveHours, .phiDist, .ashLogMean, .ashLogSdev],
        form.has f = true) ∧
      ∀ f ∈ [Field.runHours, .eruptHours, .saveHours], ∀ text, form.text? f = some text →
        IsHours text) ∧
    (∀ e form', reconcile.run.run form = (.error e, form') ↔ FirstFault form e ∧ form' = form) ∧
    (∀ text (l : Decimal.Literal), l.text = Text.trim text.toList →
      (IsHours text ↔ l.value < Decimal.overflow)) ∧
    ∀ text x, Decimal.read? (Text.trim text.toList) = some x → x.isFinite = false →
      ¬ IsHours text := by
  refine ⟨?_, fun e form' => ?_, fun text l => isHours_iff_of_literal,
    fun text x => not_isHours_of_read?⟩
  · simp only [reconcile_eq_ok_iff]
    exact exists_plan_iff
  · rw [reconcile_eq_error_iff, plan_eq_error_iff]

/-- A run of more hours than the largest double, and a saved part that is no number. -/
def overflowing : Form :=
  (Form.run.put .runHours " 1e400\n").put .saveHours "nan"

/-- The run is named, as its text stands there. A form without two of the controls fails for the
first of these, although the text of its run is no hours. -/
theorem reconcile_first_fault_overflowing :
    reconcile.run.run overflowing = (.error (.invalidNumber .runHours " 1e400\n"), overflowing) ∧
      reconcile.run.run ((Form.ofControls [.runHours, .saveHours, .ashLogMean, .ashLogSdev]).put
          .runHours "x") =
        (.error (.missingField .eruptHours),
          (Form.ofControls [.runHours, .saveHours, .ashLogMean, .ashLogSdev]).put
            .runHours "x") := by
  constructor
  · obtain ⟨-, herror, -, hbad⟩ := reconcile_first_fault overflowing
    have hrun : ¬ IsHours " 1e400\n" :=
      hbad _ Decimal.infinity (by decide +kernel) (by decide +kernel)
    have hfirst : IsFirst (HoldsNoHours overflowing) hourControls .runHours :=
      isFirst_cons.2 (.inl ⟨⟨_, rfl, hrun⟩, rfl⟩)
    exact (herror _ _).2 ⟨.noHours (by decide) hfirst rfl, rfl⟩
  · obtain ⟨-, herror, -⟩ := reconcile_first_fault
      ((Form.ofControls [.runHours, .saveHours, .ashLogMean, .ashLogSdev]).put .runHours "x")
    refine (herror _ _).2 ⟨.missing ?_, rfl⟩
    exact isFirst_cons.2 (.inr ⟨by decide, isFirst_cons.2 (.inl ⟨by decide, rfl⟩)⟩)

end PlumeForm.RunOptions
