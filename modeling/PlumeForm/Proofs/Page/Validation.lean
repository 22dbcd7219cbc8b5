import PlumeForm.Proofs.EruptionDate.Canonical
import PlumeForm.Proofs.Page.Effect

/-!
# Checking a date

The check of an eruption date depends on one text only: the one in the control, brought into
canonical form if the settings say so. It is accepted and stays in the control, or it is given up,
with an alert and an empty control. A second check then finds the same again, because normalising
leaves its own results alone, and the empty text is never accepted (`checkEruptionDate_outcome`).
-/

namespace PlumeForm

/-- The page with a text for its date. -/
def Page.withDate (page : Page) (text : String) : Page :=
  { page with runForm := page.runForm.put .eruptDate text }

namespace Settings

theorem dateValue_dateValue (settings : Settings) (now : Int) (text : String) :
    settings.dateValue now (settings.dateValue now text) = settings.dateValue now text := by
  by_cases hnormalize : settings.normalizeEruptionDates = true
  · simp only [dateValue, hnormalize, if_true, EruptionDate.normalize_normalize]
  · simp only [dateValue, hnormalize, if_false, Bool.false_eq_true]

theorem dateValue_empty (settings : Settings) (now : Int) : settings.dateValue now "" = "" := by
  have hnormalize : EruptionDate.normalize "" now = "" :=
    EruptionDate.normalize_of_neither rfl rfl
  simp only [dateValue, hnormalize, ite_self]

end Settings

theorem DateCheck.accepts_empty (check : DateCheck) : check.accepts "" = false := by
  cases check <;> decide

theorem DateCheck.accepts_length_of_strict {value : String}
    (h : DateCheck.strict.accepts value = true) : DateCheck.length.accepts value = true := by
  obtain ⟨t, ht⟩ := Option.isSome_iff_exists.1 h
  have hlength := (EruptionDate.parse?_eq_some_iff.1 ht).1
  exact beq_iff_eq.2 hlength

section Runs

variable (settings : Settings) (now : Int) {page : Page} {text : String}

theorem run_checkEruptionDate_of_accepts (h : page.runForm.text? .eruptDate = some text)
    (haccepts : settings.eruptionDateCheck.accepts (settings.dateValue now text) = true) :
    (checkEruptionDate settings now).run.run page =
      (.ok (), page.withDate (settings.dateValue now text)) := by
  rw [run_checkEruptionDate_of_text settings now h]
  exact if_pos haccepts

theorem run_checkEruptionDate_of_not_accepts (h : page.runForm.text? .eruptDate = some text)
    (hrejects : settings.eruptionDateCheck.accepts (settings.dateValue now text) = false) :
    (checkEruptionDate settings now).run.run page =
      (.error (.badEruptionDate (settings.dateValue now text)), page.rejectDate) := by
  rw [run_checkEruptionDate_of_text settings now h]
  simp only [hrejects, if_false, Bool.false_eq_true, Page.rejectDate, Form.put_put]

end Runs

/-- The check accepts a date or empties it with an alert, and nothing else on the page changes. The
same check after that comes to the same end: an accepted date stays, and the empty one is given up
again. What the strict check accepts, the check of the length accepts with the same page. -/
theorem checkEruptionDate_outcome (settings : Settings) (now : Int) (page : Page) (text : String)
    (h : page.runForm.text? .eruptDate = some text) :
    let value := settings.dateValue now text
    let check (page : Page) := (checkEruptionDate settings now).run.run page
    (settings.eruptionDateCheck.accepts value = true →
      check page = (.ok (), page.withDate value) ∧
      check (page.withDate value) = (.ok (), page.withDate value)) ∧
    (settings.eruptionDateCheck.accepts value = false →
      check page = (.error (.badEruptionDate value), page.rejectDate) ∧
      check page.rejectDate = (.error (.badEruptionDate ""), page.rejectDate.rejectDate)) ∧
    (settings.eruptionDateCheck = .strict → ∀ after, check page = (.ok (), after) →
      (checkEruptionDate { settings with eruptionDateCheck := .length } now).run.run page =
        (.ok (), after)) := by
  intro value check
  refine ⟨?_, ?_, ?_⟩
  · intro haccepts
    have hvalue : (page.withDate value).runForm.text? .eruptDate = some value :=
      Form.text?_put_self _ _ _
    have hsame : settings.dateValue now value = value := settings.dateValue_dateValue now text
    have hagain : check (page.withDate value) = (.ok (), (page.withDate value).withDate value) := by
      have hrun := run_checkEruptionDate_of_accepts settings now hvalue
      rw [hsame] at hrun
      exact hrun haccepts
    refine ⟨run_checkEruptionDate_of_accepts settings now h haccepts, ?_⟩
    rw [hagain, Page.withDate, Page.withDate, Form.put_put]
  · intro hrejects
    have hempty : page.rejectDate.runForm.text? .eruptDate = some "" := Form.text?_put_self _ _ _
    have hagain := run_checkEruptionDate_of_not_accepts settings now hempty
    rw [settings.dateValue_empty] at hagain
    exact ⟨run_checkEruptionDate_of_not_accepts settings now h hrejects,
      hagain (DateCheck.accepts_empty settings.eruptionDateCheck)⟩
  · intro hstrict after hafter
    cases haccepts : settings.eruptionDateCheck.accepts value with
    | false =>
      have hrejected : check page = _ := run_checkEruptionDate_of_not_accepts settings now h haccepts
      rw [hrejected] at hafter
      cases hafter
    | true =>
      have haccepted : check page = _ := run_checkEruptionDate_of_accepts settings now h haccepts
      rw [haccepted] at hafter
      cases hafter
      rw [hstrict] at haccepts
      exact run_checkEruptionDate_of_accepts _ now h (DateCheck.accepts_length_of_strict haccepts)

/-- A compact date is accepted in canonical form by both checks, and a thirteenth month is not. -/
theorem checkEruptionDate_outcome_compact :
    let settings : Settings := { eruptionDateCheck := .strict, normalizeEruptionDates := true }
    let page : Page := { runForm := Form.run.put .eruptDate "200807121930" }
    let wrong : Page := { runForm := Form.run.put .eruptDate "2008 13 12 19:30" }
    page.runForm.text? .eruptDate = some "200807121930" ∧
      (checkEruptionDate settings 0).run.run page =
        (.ok (), page.withDate "2008 07 12 19:30") ∧
      (checkEruptionDate { settings with eruptionDateCheck := .length } 0).run.run page =
        (.ok (), page.withDate "2008 07 12 19:30") ∧
      wrong.runForm.text? .eruptDate = some "2008 13 12 19:30" ∧
      (checkEruptionDate settings 0).run.run wrong =
        (.error (.badEruptionDate "2008 13 12 19:30"), wrong.rejectDate) := by
  intro settings page wrong
  have hvalue : settings.dateValue 0 "200807121930" = "2008 07 12 19:30" := by decide +kernel
  have hwrong : settings.dateValue 0 "2008 13 12 19:30" = "2008 13 12 19:30" := by decide +kernel
  obtain ⟨haccepted, -, hboth⟩ := checkEruptionDate_outcome settings 0 page "200807121930" rfl
  obtain ⟨-, hrejected, -⟩ := checkEruptionDate_outcome settings 0 wrong "2008 13 12 19:30" rfl
  rw [hvalue] at haccepted
  rw [hwrong] at hrejected
  have hrun := (haccepted (by decide +kernel)).1
  exact ⟨rfl, hrun, hboth rfl _ hrun, rfl, (hrejected (by decide +kernel)).1⟩

end PlumeForm
