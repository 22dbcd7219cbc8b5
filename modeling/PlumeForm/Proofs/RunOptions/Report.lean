import PlumeForm.Proofs.RunOptions.Repetition

/-!
# What the report of reconciling says

The two flags about hours say that a text has changed. The two flags about the distributions say
which of them was put aside, whether or not there was anything left in it to empty: the report on a
form that stays as it is may have one of them set (`reported_without_change`). Main statement: what
each flag means, and when none is set (`reconcile_report`).
-/

namespace PlumeForm.RunOptions

/-! ## The texts before and after -/

/-- A part gets another text exactly when the run is less: a text is not less than itself. -/
theorem clamped_ne_iff (runText partText : String) :
    clamped runText partText ≠ partText ↔ isLess (hours? runText) (hours? partText) = true := by
  rw [isLess_hours_iff]
  constructor
  · intro hne
    exact Classical.byContradiction fun hexceeds => hne (clamped_of_not_exceeds hexceeds)
  · intro hexceeds hsame
    rw [clamped_of_exceeds hexceeds] at hsame
    subst hsame
    exact not_exceeds_self _ hexceeds

namespace Texts

variable (t : Texts)

theorem eruptHoursClamped_iff :
    (adjustments t t.hours).eruptHoursClamped = true ↔ t.settled.eruptHours ≠ t.eruptHours := by
  simp only [adjustments, hours, settled, clamped_ne_iff]

theorem saveHoursClamped_iff :
    (adjustments t t.hours).saveHoursClamped = true ↔ t.settled.saveHours ≠ t.saveHours := by
  simp only [adjustments, hours, settled, clamped_ne_iff]

theorem logParamsCleared_iff : (adjustments t t.hours).logParamsCleared = true ↔ t.phiDist ≠ "" :=
  decide_eq_true_iff

theorem phiDistCleared_iff :
    (adjustments t t.hours).phiDistCleared = true ↔ t.phiDist = "" ∧ t.ashLogMean ≠ "" :=
  decide_eq_true_iff

/-- The mean or the deviation changes where the other distribution is given and one of them has a
text. -/
theorem distribution_settled_ne_iff :
    t.settled.ashLogMean ≠ t.ashLogMean ∨ t.settled.ashLogSdev ≠ t.ashLogSdev ↔
      t.phiDist ≠ "" ∧ (t.ashLogMean ≠ "" ∨ t.ashLogSdev ≠ "") := by
  by_cases hphi : t.phiDist = ""
  · simp [settled, hphi]
  · simp [settled, hphi, ne_comm (a := "")]

theorem any_adjustments_eq_false_iff :
    (adjustments t t.hours).any = false ↔
      t.settled.eruptHours = t.eruptHours ∧ t.settled.saveHours = t.saveHours ∧ t.phiDist = "" ∧
        t.ashLogMean = "" := by
  rw [← Bool.not_eq_true, Adjustments.any]
  simp only [Bool.or_eq_true, not_or, eruptHoursClamped_iff, saveHoursClamped_iff,
    logParamsCleared_iff, phiDistCleared_iff, ne_eq, not_and, Decidable.not_not, and_assoc]
  exact and_congr_right fun _ => and_congr_right fun _ => and_congr_right fun hphi =>
    forall_prop_of_true hphi

/-- Where nothing is reported nothing is written. -/
theorem settled_of_any_eq_false (form : Form) (h : (adjustments t t.hours).any = false) :
    RunOptions.settled t t.hours form = form := by
  obtain ⟨herupt, hsave, hphi, hmean⟩ := t.any_adjustments_eq_false_iff.1 h
  have hnotErupt : isLess t.hours.run t.hours.erupt = false :=
    Bool.eq_false_iff.2 fun hless => t.eruptHoursClamped_iff.1 hless herupt
  have hnotSave : isLess t.hours.run t.hours.save = false :=
    Bool.eq_false_iff.2 fun hless => t.saveHoursClamped_iff.1 hless hsave
  simp [RunOptions.settled, Form.putWhen, hnotErupt, hnotSave, hphi, hmean]

end Texts

/-! ## The report -/

/-- What a successful reconciliation reports. The flag of a part of the run is set exactly when its
text has changed. The mean and the deviation are reported exactly when the other distribution is
given, and have changed if they were not both empty before. The other distribution is reported
exactly when it is empty and the mean is given, and never changes. Nothing is reported exactly on
the forms that stay as they are and give neither distribution by its first control. -/
theorem reconcile_report {form form' : Form} {a : Adjustments}
    (h : reconcile.run.run form = (.ok a, form')) :
    (a.eruptHoursClamped = true ↔ form'.text? .eruptHours ≠ form.text? .eruptHours) ∧
    (a.saveHoursClamped = true ↔ form'.text? .saveHours ≠ form.text? .saveHours) ∧
    (a.logParamsCleared = true ↔ form.text? .phiDist ≠ some "") ∧
    (form'.text? .ashLogMean ≠ form.text? .ashLogMean ∨
        form'.text? .ashLogSdev ≠ form.text? .ashLogSdev ↔
      a.logParamsCleared = true ∧
        (form.text? .ashLogMean ≠ some "" ∨ form.text? .ashLogSdev ≠ some "")) ∧
    (a.phiDistCleared = true ↔
      form.text? .phiDist = some "" ∧ form.text? .ashLogMean ≠ some "") ∧
    form'.text? .phiDist = form.text? .phiDist ∧
    (a.any = false ↔
      form' = form ∧ form.text? .phiDist = some "" ∧ form.text? .ashLogMean = some "") := by
  obtain ⟨t, n, ht, hn, rfl, rfl⟩ := plan_eq_ok_iff.1 (reconcile_eq_ok_iff.1 h)
  obtain ⟨rfl, -⟩ := readNumbers_eq_ok_iff_isReadable.1 hn
  obtain ⟨-, herupt, hsave, hphi, hmean, hsdev⟩ := readTexts_eq_ok_iff.1 ht
  obtain ⟨-, herupt', hsave', hphi', hmean', hsdev'⟩ :=
    readTexts_eq_ok_iff.1 (readTexts_settled ht)
  rw [herupt', hsave', hphi', hmean', hsdev', herupt, hsave, hphi, hmean, hsdev]
  simp only [ne_eq, Option.some.injEq]
  refine ⟨t.eruptHoursClamped_iff, t.saveHoursClamped_iff, t.logParamsCleared_iff, ?_,
    t.phiDistCleared_iff, rfl, ?_⟩
  · rw [t.logParamsCleared_iff]
    exact t.distribution_settled_ne_iff
  · constructor
    · intro hany
      obtain ⟨-, -, hnoPhi, hnoMean⟩ := t.any_adjustments_eq_false_iff.1 hany
      exact ⟨t.settled_of_any_eq_false form hany, hnoPhi, hnoMean⟩
    · rintro ⟨hsame, hnoPhi, hnoMean⟩
      rw [hsame, herupt, Option.some.injEq] at herupt'
      rw [hsame, hsave, Option.some.injEq] at hsave'
      exact t.any_adjustments_eq_false_iff.2 ⟨herupt'.symm, hsave'.symm, hnoPhi, hnoMean⟩

/-- The eruption is reported and has the text of the run; so are the mean and the deviation, of
which only the mean had a text to lose. -/
theorem reconcile_report_longEruption :
    ∃ form', reconcile.run.run longEruption = (.ok ⟨true, false, true, false⟩, form') ∧
      form'.text? .eruptHours ≠ longEruption.text? .eruptHours ∧
      form'.text? .saveHours = longEruption.text? .saveHours ∧
      (form'.text? .ashLogMean ≠ longEruption.text? .ashLogMean ∨
        form'.text? .ashLogSdev ≠ longEruption.text? .ashLogSdev) ∧
      form'.text? .phiDist = longEruption.text? .phiDist := by
  have hok : (reconcile.run.run longEruption).1.toOption = some ⟨true, false, true, false⟩ := by
    decide +kernel
  rcases hresult : reconcile.run.run longEruption with ⟨result, form'⟩
  rw [hresult] at hok
  cases result with
  | error e => cases hok
  | ok a =>
    cases hok
    obtain ⟨herupt, hsave, -, hdistribution, -, hphi, -⟩ := reconcile_report hresult
    have hmean : longEruption.text? .ashLogMean ≠ some "" := by decide
    refine ⟨form', rfl, herupt.1 rfl, ?_, hdistribution.2 ⟨rfl, .inl hmean⟩, hphi⟩
    exact Decidable.not_not.1 fun hne => Bool.false_ne_true (hsave.2 hne)

/-! ## Reports of forms that stay as they are -/

/-- A form that gives one distribution and no hours. -/
def gaussOnly : Form := Form.run.put .phiDist "gauss"

/-- A form that gives the mean of the other distribution and no hours. -/
def meanOnly : Form := Form.run.put .ashLogMean "1.5"

theorem reconcile_gaussOnly :
    reconcile.run.run gaussOnly = (.ok ⟨false, false, true, false⟩, gaussOnly) := by
  refine reconcile_eq_ok_iff.2 (plan_eq_ok_iff.2
    ⟨⟨"", "", "", "gauss", "", ""⟩, ⟨none, none, none⟩, rfl, rfl, rfl, Form.ext rfl fun f => ?_⟩)
  cases f <;> rfl

theorem reconcile_meanOnly :
    reconcile.run.run meanOnly = (.ok ⟨false, false, false, true⟩, meanOnly) := by
  refine reconcile_eq_ok_iff.2 (plan_eq_ok_iff.2
    ⟨⟨"", "", "", "", "1.5", ""⟩, ⟨none, none, none⟩, rfl, rfl, rfl, Form.ext rfl fun f => ?_⟩)
  cases f <;> rfl

/-- The flags do not just say what has changed: these two forms stay as they are, and of each a
distribution is reported. -/
theorem reported_without_change :
    reconcile.run.run gaussOnly = (.ok ⟨false, false, true, false⟩, gaussOnly) ∧
    reconcile.run.run meanOnly = (.ok ⟨false, false, false, true⟩, meanOnly) ∧
    ¬ ∀ (form form' : Form) (a : Adjustments), reconcile.run.run form = (.ok a, form') →
      (a.eruptHoursClamped = true ↔ form'.text? .eruptHours ≠ form.text? .eruptHours) ∧
      (a.saveHoursClamped = true ↔ form'.text? .saveHours ≠ form.text? .saveHours) ∧
      (a.logParamsCleared = true ↔ form'.text? .ashLogMean ≠ form.text? .ashLogMean ∨
        form'.text? .ashLogSdev ≠ form.text? .ashLogSdev) ∧
      (a.phiDistCleared = true ↔ form'.text? .phiDist ≠ form.text? .phiDist) ∧
      (a.any = false ↔ form' = form) := by
  refine ⟨reconcile_gaussOnly, reconcile_meanOnly, fun h => ?_⟩
  obtain ⟨-, -, -, -, hany⟩ := h _ _ _ reconcile_gaussOnly
  cases hany.2 rfl

end PlumeForm.RunOptions
