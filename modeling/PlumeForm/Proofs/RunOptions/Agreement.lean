import PlumeForm.Proofs.Decimal.Order
import PlumeForm.Proofs.Page.Footprint
import PlumeForm.Proofs.Page.Session

/-!
# Run options that agree

Run options agree when neither the eruption nor the saved part of a run exceeds the run, and when at
most one particle distribution is given (`Agree`). Reconciling makes them agree and says of every
text what has become of it (`reconcile_agrees`). No other event touches the texts in question, so
they agree for the rest of the session (`agree_dispatchAll`).
-/

namespace PlumeForm.RunOptions

/-! ## Agreement -/

/-- The controls whose hours may not exceed the run. -/
def parts : List Field := [.eruptHours, .saveHours]

/-- If the run and the part are given, both are numbers and the part does not exceed the run. -/
def Bounded (form : Form) (part : Field) : Prop :=
  ∀ runText partText, form.text? .runHours = some runText → form.text? part = some partText →
    IsGiven runText → IsGiven partText →
      ∃ run hours, hours? runText = some run ∧ hours? partText = some hours ∧ hours ≤ run

/-- If the one distribution is given, the other one is not. -/
def Exclusive (form : Form) : Prop :=
  ∀ phiDist, form.text? .phiDist = some phiDist → phiDist ≠ "" →
    form.text? .ashLogMean = some "" ∧ form.text? .ashLogSdev = some ""

/-- The run options agree. -/
structure Agree (form : Form) : Prop where
  bounded : ∀ part ∈ parts, Bounded form part
  exclusive : Exclusive form

/-- The run is less than the part, both being given. -/
def Exceeds (runText partText : String) : Prop :=
  ∃ run hours, hours? runText = some run ∧ hours? partText = some hours ∧ run < hours

/-- Agreement is a matter of the six texts. -/
theorem Agree.congr {form form' : Form} (h : Agree form)
    (htexts : ∀ f ∈ controls, form'.text? f = form.text? f) : Agree form' := by
  have hrun := htexts .runHours (by decide)
  have hparts : ∀ part ∈ parts, part ∈ controls := by decide
  refine ⟨fun part hpart runText partText hr hp => ?_, fun phiDist hphi hne => ?_⟩
  · rw [hrun] at hr
    rw [htexts part (hparts part hpart)] at hp
    exact h.bounded part hpart runText partText hr hp
  · rw [htexts .phiDist (by decide)] at hphi
    rw [htexts .ashLogMean (by decide), htexts .ashLogSdev (by decide)]
    exact h.exclusive phiDist hphi hne

/-! ## Clamping -/

/-- What becomes of the text of a part. -/
def clamped (runText partText : String) : String :=
  if isLess (hours? runText) (hours? partText) then runText else partText

/-- The text is a number if it is given at all. -/
def IsReadable (text : String) : Prop :=
  IsGiven text → (hours? text).isSome = true

theorem isLess_hours_iff {runText partText : String} :
    isLess (hours? runText) (hours? partText) = true ↔ Exceeds runText partText :=
  isLess_eq_true_iff

theorem not_exceeds_self (text : String) : ¬ Exceeds text text := by
  rintro ⟨run, hours, hrun, hhours, hless⟩
  cases hrun.symm.trans hhours
  exact Decimal.lt_irrefl (isFinite_of_hours hrun) hless

theorem clamped_of_exceeds {runText partText : String} (h : Exceeds runText partText) :
    clamped runText partText = runText :=
  if_pos (isLess_hours_iff.2 h)

theorem clamped_of_not_exceeds {runText partText : String} (h : ¬ Exceeds runText partText) :
    clamped runText partText = partText :=
  if_neg fun hless => h (isLess_hours_iff.1 hless)

/-- Of two numbers the smaller one stays. -/
theorem hours_clamped {runText partText : String} {run hours : Float}
    (hrun : hours? runText = some run) (hpart : hours? partText = some hours) :
    hours? (clamped runText partText) = some (if run < hours then run else hours) := by
  by_cases hless : run < hours
  · rw [clamped_of_exceeds ⟨run, hours, hrun, hpart, hless⟩, hrun, if_pos hless]
  · have hnot : ¬ Exceeds runText partText := by
      rintro ⟨_, _, hrun', hpart', hless'⟩
      rw [hrun] at hrun'
      rw [hpart] at hpart'
      cases hrun'
      cases hpart'
      exact hless hless'
    rw [clamped_of_not_exceeds hnot, hpart, if_neg hless]

/-- A part that was clamped does not exceed the run. -/
theorem le_of_clamped {runText partText : String} (hrun : IsReadable runText)
    (hpart : IsReadable partText) (hgiven : IsGiven runText)
    (hclamped : IsGiven (clamped runText partText)) :
    ∃ run hours, hours? runText = some run ∧
      hours? (clamped runText partText) = some hours ∧ hours ≤ run := by
  obtain ⟨run, hr⟩ := Option.isSome_iff_exists.1 (hrun hgiven)
  by_cases hexceeds : Exceeds runText partText
  · rw [clamped_of_exceeds hexceeds]
    exact ⟨run, run, hr, hr, Decimal.le_self (isFinite_of_hours hr)⟩
  · rw [clamped_of_not_exceeds hexceeds] at hclamped ⊢
    obtain ⟨hours, hp⟩ := Option.isSome_iff_exists.1 (hpart hclamped)
    refine ⟨run, hours, hr, hp, ?_⟩
    exact Decimal.le_of_not_lt (isFinite_of_hours hr) (isFinite_of_hours hp)
      fun hless => hexceeds ⟨run, hours, hr, hp, hless⟩

/-! ## Reconciling makes the options agree -/

theorem isReadable_of_readHours {field : Field} {text : String} {x : Option Float}
    (h : readHours field text = .ok x) : IsReadable text := by
  obtain ⟨rfl, hgiven⟩ := readHours_eq_ok_iff.1 h
  exact hgiven

theorem readHours_of_isReadable (field : Field) {text : String} (h : IsReadable text) :
    readHours field text = .ok (hours? text) :=
  readHours_eq_ok_iff.2 ⟨rfl, h⟩

/-- The numbers of the texts that are numbers. -/
def Texts.hours (t : Texts) : Hours :=
  ⟨hours? t.runHours, hours? t.eruptHours, hours? t.saveHours⟩

/-- The numbers are read exactly from texts that are numbers if they are given. -/
theorem readNumbers_eq_ok_iff_isReadable {t : Texts} {n : Hours} :
    readNumbers t = .ok n ↔
      n = t.hours ∧ IsReadable t.runHours ∧ IsReadable t.eruptHours ∧ IsReadable t.saveHours := by
  rw [readNumbers_eq_ok_iff]
  constructor
  · rintro ⟨hrun, herupt, hsave⟩
    refine ⟨?_, isReadable_of_readHours hrun, isReadable_of_readHours herupt,
      isReadable_of_readHours hsave⟩
    rw [Texts.hours, ← (readHours_eq_ok_iff.1 hrun).1, ← (readHours_eq_ok_iff.1 herupt).1,
      ← (readHours_eq_ok_iff.1 hsave).1]
  · rintro ⟨rfl, hrun, herupt, hsave⟩
    simp only [Texts.hours]
    exact ⟨readHours_of_isReadable _ hrun, readHours_of_isReadable _ herupt,
      readHours_of_isReadable _ hsave⟩

/-- A part is clamped to the run. -/
theorem text?_part_of_plan {form form' : Form} {a : Adjustments} {part : Field}
    (h : plan form = .ok (a, form')) (hpart : part ∈ parts) :
    ∃ runText partText, form.text? .runHours = some runText ∧ form.text? part = some partText ∧
      IsReadable runText ∧ IsReadable partText ∧
        form'.text? part = some (clamped runText partText) := by
  obtain ⟨t, n, ht, hn, -, rfl⟩ := plan_eq_ok_iff.1 h
  obtain ⟨hrun, herupt, hsave, -⟩ := readTexts_eq_ok_iff.1 ht
  obtain ⟨hrunHours, heruptHours, hsaveHours⟩ := readNumbers_eq_ok_iff.1 hn
  have hnrun := (readHours_eq_ok_iff.1 hrunHours).1
  rw [text?_settled]
  simp only [parts, List.mem_cons, List.not_mem_nil, or_false] at hpart
  rcases hpart with rfl | rfl
  · refine ⟨_, _, hrun, herupt, isReadable_of_readHours hrunHours,
      isReadable_of_readHours heruptHours, ?_⟩
    rw [clamped, ← hnrun, ← (readHours_eq_ok_iff.1 heruptHours).1, herupt]
    exact (apply_ite some _ _ _).symm
  · refine ⟨_, _, hrun, hsave, isReadable_of_readHours hrunHours,
      isReadable_of_readHours hsaveHours, ?_⟩
    rw [clamped, ← hnrun, ← (readHours_eq_ok_iff.1 hsaveHours).1, hsave]
    exact (apply_ite some _ _ _).symm

/-- The second distribution is emptied if the first one is given. -/
theorem text?_distributions_of_plan {form form' : Form} {a : Adjustments}
    (h : plan form = .ok (a, form')) :
    ∃ phiDist, form.text? .phiDist = some phiDist ∧
      (phiDist ≠ "" → form'.text? .ashLogMean = some "" ∧ form'.text? .ashLogSdev = some "") ∧
      (phiDist = "" → form'.text? .ashLogMean = form.text? .ashLogMean ∧
        form'.text? .ashLogSdev = form.text? .ashLogSdev) := by
  obtain ⟨t, n, ht, -, -, rfl⟩ := plan_eq_ok_iff.1 h
  have hphi := (readTexts_eq_ok_iff.1 ht).2.2.2.1
  refine ⟨t.phiDist, hphi, fun hne => ?_, fun hempty => ?_⟩
  · exact ⟨by simp [text?_settled, hne], by simp [text?_settled, hne]⟩
  · exact ⟨by simp [text?_settled, hempty], by simp [text?_settled, hempty]⟩

theorem agree_of_plan {form form' : Form} {a : Adjustments} (h : plan form = .ok (a, form')) :
    Agree form' := by
  refine ⟨fun part hpart runText partText hr hp hgivenRun hgivenPart => ?_,
    fun phiDist hphi hne => ?_⟩
  · obtain ⟨oldRun, oldPart, hrun, -, hreadRun, hreadPart, hclamped⟩ := text?_part_of_plan h hpart
    rw [text?_of_plan h (by decide), hrun] at hr
    rw [hclamped] at hp
    cases hr
    cases hp
    exact le_of_clamped hreadRun hreadPart hgivenRun hgivenPart
  · obtain ⟨oldPhi, holdPhi, hempties, -⟩ := text?_distributions_of_plan h
    rw [text?_of_plan h (by decide), holdPhi] at hphi
    cases hphi
    exact hempties hne

/-! ## Agreement lasts -/

/-- Only submitting the run options can change them. -/
theorem not_mem_footprint {event : Event} (h : event ≠ .runOptionsSubmitted) {f : Field}
    (hf : f ∈ controls) : f ∉ event.footprint := by
  cases event with
  | runOptionsSubmitted => exact absurd rfl h
  | volcanoSelected => revert f; decide
  | eruptDateChanged => revert f; decide
  | _ => exact List.not_mem_nil

/-- An event leaves run options that agree as they are, or makes them agree again. -/
theorem agree_dispatch {settings : Settings} {event : Event} {now : Int} {page : Page}
    (h : Agree page.runForm) : Agree (dispatch settings event now page).2.runForm := by
  rw [dispatch_eq]
  by_cases hevent : event = .runOptionsSubmitted
  · subst hevent
    unfold Event.effect
    cases hplan : plan page.runForm with
    | error e => exact h
    | ok result => exact agree_of_plan hplan
  · exact h.congr fun f hf => Event.text?_effect settings now page (not_mem_footprint hevent hf)

/-- Run options that agree do so after every event of a session. -/
theorem agree_dispatchAll {settings : Settings} (session : List (Event × Int)) {page : Page}
    (h : Agree page.runForm) : Agree (dispatchAll settings session page).2.runForm :=
  dispatchAll_invariant (P := fun page => Agree page.runForm)
    (fun _ _ _ hpage => agree_dispatch hpage) session page h

/-- A successful reconciliation: no part exceeds the run, a part that did has the run's text and
every other part its own, one of the two distributions is left, nothing else has changed, and the
options agree for as long as the page lives. -/
theorem reconcile_agrees {form form' : Form} {a : Adjustments}
    (h : reconcile.run.run form = (.ok a, form')) :
    (∀ part ∈ parts, Bounded form' part) ∧
    (∀ part ∈ parts, ∃ runText partText settledText,
      form.text? .runHours = some runText ∧ form.text? part = some partText ∧
      form'.text? part = some settledText ∧
      (Exceeds runText partText → settledText = runText) ∧
      (¬ Exceeds runText partText → settledText = partText) ∧
      ∀ run hours, hours? runText = some run → hours? partText = some hours →
        hours? settledText = some (if run < hours then run else hours)) ∧
    (∃ phiDist, form.text? .phiDist = some phiDist ∧
      (phiDist ≠ "" → form'.text? .ashLogMean = some "" ∧ form'.text? .ashLogSdev = some "") ∧
      (phiDist = "" → form'.text? .ashLogMean = form.text? .ashLogMean ∧
        form'.text? .ashLogSdev = form.text? .ashLogSdev)) ∧
    (form'.selected = form.selected ∧ ∀ f ∉ rewritten, form'.text? f = form.text? f) ∧
    ∀ settings session page, page.runForm = form' →
      (∀ part ∈ parts, Bounded (dispatchAll settings session page).2.runForm part) ∧
        Exclusive (dispatchAll settings session page).2.runForm := by
  have hplan : plan form = .ok (a, form') := by
    rw [run_reconcile] at h
    cases hresult : plan form with
    | error e =>
      rw [hresult] at h
      cases h
    | ok result =>
      rw [hresult] at h
      cases h
      rfl
  have hagree : Agree form' := agree_of_plan hplan
  refine ⟨hagree.bounded, fun part hpart => ?_, text?_distributions_of_plan hplan,
    ⟨selected_of_plan hplan, fun f hf => text?_of_plan hplan hf⟩, ?_⟩
  · obtain ⟨runText, partText, hrun, hold, -, -, hclamped⟩ := text?_part_of_plan hplan hpart
    exact ⟨runText, partText, _, hrun, hold, hclamped, clamped_of_exceeds,
      clamped_of_not_exceeds, fun _ _ => hours_clamped⟩
  · rintro settings session page rfl
    have hlater : Agree (dispatchAll settings session page).2.runForm :=
      agree_dispatchAll session hagree
    exact ⟨hlater.bounded, hlater.exclusive⟩

/-- A form whose eruption is longer than its run, and which gives both distributions. -/
def longEruption : Form :=
  ((((Form.run.put .runHours " 2.5").put .eruptHours "1e1").put .saveHours "2").put .phiDist
    "gauss").put .ashLogMean "-5"

theorem reconcile_agrees_longEruption :
    ∃ a form', reconcile.run.run longEruption = (.ok a, form') ∧
      (∀ part ∈ parts, Bounded form' part) ∧ form'.text? .eruptHours = some " 2.5" := by
  have hok : (reconcile.run.run longEruption).1.toOption = some ⟨true, false, true, false⟩ := by
    decide +kernel
  rcases hresult : reconcile.run.run longEruption with ⟨result, form'⟩
  rw [hresult] at hok
  cases result with
  | error e => cases hok
  | ok a =>
    obtain ⟨hbounded, hsettled, -⟩ := reconcile_agrees hresult
    obtain ⟨_, _, _, hrun, herupt, hnew, hclamped, -⟩ := hsettled .eruptHours (by decide)
    cases hrun.symm.trans (by decide : longEruption.text? .runHours = some " 2.5")
    cases herupt.symm.trans (by decide : longEruption.text? .eruptHours = some "1e1")
    have hexceeds : Exceeds " 2.5" "1e1" :=
      ⟨2.5, 10, by decide +kernel, by decide +kernel, by decide +kernel⟩
    rw [hclamped hexceeds] at hnew
    exact ⟨a, form', rfl, hbounded, hnew⟩

end PlumeForm.RunOptions
