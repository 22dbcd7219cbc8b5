import PlumeForm.Proofs.RunOptions.Agreement

/-!
# Reconciling again

What reconciling leaves behind is in order: a second time it finds the texts that the first time
has written (`Texts.settled`), clamps nothing, and would empty only what is empty already. So it
succeeds again, changes nothing, and repeats what it has reported about the distributions
(`reconcile_reconcile`).
-/

namespace PlumeForm.RunOptions

/-! ## Clamped texts -/

theorem isReadable_clamped {runText partText : String} (hrun : IsReadable runText)
    (hpart : IsReadable partText) : IsReadable (clamped runText partText) := by
  unfold clamped
  split
  · exact hrun
  · exact hpart

/-- The run is not less than a part that was clamped to it. -/
theorem not_exceeds_clamped (runText partText : String) :
    ¬ Exceeds runText (clamped runText partText) := by
  by_cases hexceeds : Exceeds runText partText
  · rw [clamped_of_exceeds hexceeds]
    exact not_exceeds_self runText
  · rw [clamped_of_not_exceeds hexceeds]
    exact hexceeds

theorem isLess_clamped (runText partText : String) :
    isLess (hours? runText) (hours? (clamped runText partText)) = false :=
  Bool.eq_false_iff.2 fun hless => not_exceeds_clamped runText partText (isLess_hours_iff.1 hless)

/-! ## The texts that are left -/

namespace Texts

/-- The six texts after reconciling. -/
def settled (t : Texts) : Texts where
  runHours := t.runHours
  eruptHours := clamped t.runHours t.eruptHours
  saveHours := clamped t.runHours t.saveHours
  phiDist := t.phiDist
  ashLogMean := if t.phiDist = "" then t.ashLogMean else ""
  ashLogSdev := if t.phiDist = "" then t.ashLogSdev else ""

theorem readNumbers_settled {t : Texts} {n : Hours} (h : readNumbers t = .ok n) :
    readNumbers t.settled = .ok t.settled.hours := by
  obtain ⟨-, hrun, herupt, hsave⟩ := readNumbers_eq_ok_iff_isReadable.1 h
  refine readNumbers_eq_ok_iff_isReadable.2 ⟨rfl, ?_⟩
  simp only [settled]
  exact ⟨hrun, isReadable_clamped hrun herupt, isReadable_clamped hrun hsave⟩

/-- Nothing is clamped a second time, and the distributions are reported alike. -/
theorem adjustments_settled (t : Texts) :
    adjustments t.settled t.settled.hours =
      { adjustments t t.hours with eruptHoursClamped := false, saveHoursClamped := false } := by
  have herupt := isLess_clamped t.runHours t.eruptHours
  have hsave := isLess_clamped t.runHours t.saveHours
  by_cases hphi : t.phiDist = "" <;>
    simp [adjustments, hours, settled, herupt, hsave, hphi]

end Texts

/-- The second time, the texts are those that the first time has left. -/
theorem readTexts_settled {form : Form} {t : Texts} (h : readTexts form = .ok t) :
    readTexts (RunOptions.settled t t.hours form) = .ok t.settled := by
  obtain ⟨hrun, herupt, hsave, hphi, hmean, hsdev⟩ := readTexts_eq_ok_iff.1 h
  simp only [readTexts_eq_ok_iff, text?_settled, Texts.settled, Texts.hours, clamped, hrun, herupt,
    hsave, hphi, hmean, hsdev, true_and]
  refine ⟨?_, ?_, ?_, ?_, ?_⟩
  · exact (apply_ite some _ _ _).symm
  · exact (apply_ite some _ _ _).symm
  · split
    · next hempty => rw [hempty.1]
    · rfl
  · exact (apply_ite some _ _ _).symm
  · exact (apply_ite some _ _ _).symm

/-- What the first time has left, the second time leaves as it is. -/
theorem settled_settled (t : Texts) (form : Form) :
    RunOptions.settled t.settled t.settled.hours (RunOptions.settled t t.hours form) =
      RunOptions.settled t t.hours form := by
  have herupt := isLess_clamped t.runHours t.eruptHours
  have hsave := isLess_clamped t.runHours t.saveHours
  refine Form.ext (by simp only [selected_settled]) fun f => ?_
  rw [text?_settled]
  cases f with
  | eruptHours => simp [Texts.hours, Texts.settled, herupt]
  | saveHours => simp [Texts.hours, Texts.settled, hsave]
  | ashLogMean => by_cases hphi : t.phiDist = "" <;> simp [text?_settled, Texts.settled, hphi]
  | ashLogSdev => by_cases hphi : t.phiDist = "" <;> simp [text?_settled, Texts.settled, hphi]
  | phiDist =>
    by_cases hphi : t.phiDist = "" <;> by_cases hmean : t.ashLogMean = "" <;>
      simp [text?_settled, Texts.settled, hphi, hmean]
  | _ => rfl

/-! ## The second time -/

theorem plan_again {form form' : Form} {a : Adjustments} (h : plan form = .ok (a, form')) :
    plan form' =
      .ok ({ a with eruptHoursClamped := false, saveHoursClamped := false }, form') := by
  obtain ⟨t, n, ht, hn, rfl, rfl⟩ := plan_eq_ok_iff.1 h
  obtain ⟨rfl, -⟩ := readNumbers_eq_ok_iff_isReadable.1 hn
  refine plan_eq_ok_iff.2 ⟨t.settled, t.settled.hours, readTexts_settled ht,
    Texts.readNumbers_settled hn, ?_, ?_⟩
  · exact (Texts.adjustments_settled t).symm
  · exact (settled_settled t form).symm

/-- Where reconciling has succeeded it succeeds again. The form stays exactly as it is, no hours are
clamped any more, and the report about the distributions is the same. -/
theorem reconcile_reconcile {form form' : Form} {a : Adjustments}
    (h : reconcile.run.run form = (.ok a, form')) :
    reconcile.run.run form' =
      (.ok { a with eruptHoursClamped := false, saveHoursClamped := false }, form') :=
  reconcile_eq_ok_iff.2 (plan_again (reconcile_eq_ok_iff.1 h))

/-- An eruption of ten hours is clamped to the text of the run, which is not clamped again. The mean
is emptied, and reported again. -/
theorem reconcile_reconcile_longEruption :
    ∃ form', reconcile.run.run longEruption = (.ok ⟨true, false, true, false⟩, form') ∧
      form'.text? .eruptHours = some " 2.5" ∧ form'.text? .ashLogMean = some "" ∧
        reconcile.run.run form' = (.ok ⟨false, false, true, false⟩, form') := by
  have hok : (reconcile.run.run longEruption).1.toOption = some ⟨true, false, true, false⟩ := by
    decide +kernel
  have herupt : (reconcile.run.run longEruption).2.text? .eruptHours = some " 2.5" := by
    decide +kernel
  have hmean : (reconcile.run.run longEruption).2.text? .ashLogMean = some "" := by
    decide +kernel
  rcases hresult : reconcile.run.run longEruption with ⟨result, form'⟩
  rw [hresult] at hok herupt hmean
  cases result with
  | error e => cases hok
  | ok a =>
    cases hok
    exact ⟨form', rfl, herupt, hmean, reconcile_reconcile hresult⟩

end PlumeForm.RunOptions
