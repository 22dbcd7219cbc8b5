import PlumeForm.Proofs.Page.Effect

/-!
# Sessions

A session is a list of events, each with the instant at which it happens. It goes on after an event
that fails. What every event keeps, every session keeps (`dispatchAll_invariant`), and a part of the
page that no event of a session changes is the same after it (`part_dispatchAll`).
-/

namespace PlumeForm

/-- The results of the events of a session, and the page after the last one. -/
def dispatchAll (settings : Settings) :
    List (Event × Int) → Page → List (Except EventError Outcome) × Page
  | [], page => ([], page)
  | (event, now) :: rest, page =>
    let (result, after) := dispatch settings event now page
    let (results, final) := dispatchAll settings rest after
    (result :: results, final)

theorem dispatchAll_cons (settings : Settings) (event : Event) (now : Int)
    (rest : List (Event × Int)) (page : Page) :
    dispatchAll settings ((event, now) :: rest) page =
      ((dispatch settings event now page).1 ::
          (dispatchAll settings rest (dispatch settings event now page).2).1,
        (dispatchAll settings rest (dispatch settings event now page).2).2) := rfl

/-- What every event keeps, every session keeps. -/
theorem dispatchAll_invariant {settings : Settings} {P : Page → Prop}
    (hstep : ∀ event now page, P page → P (dispatch settings event now page).2)
    (session : List (Event × Int)) (page : Page) (hpage : P page) :
    P (dispatchAll settings session page).2 := by
  induction session generalizing page with
  | nil => exact hpage
  | cons step rest ih =>
    obtain ⟨event, now⟩ := step
    rw [dispatchAll_cons]
    exact ih _ (hstep event now page hpage)

/-- What no event of a session changes, the session does not change. -/
theorem part_dispatchAll {α : Type} {settings : Settings} (part : Page → α)
    {session : List (Event × Int)}
    (hstep : ∀ step ∈ session, ∀ page,
      part (step.1.effect settings step.2 page).2 = part page) (page : Page) :
    part (dispatchAll settings session page).2 = part page := by
  induction session generalizing page with
  | nil => rfl
  | cons step rest ih =>
    obtain ⟨event, now⟩ := step
    rw [List.forall_mem_cons] at hstep
    have hrest := ih hstep.2 (dispatch settings event now page).2
    rw [dispatchAll_cons]
    refine hrest.trans ?_
    rw [dispatch_eq]
    exact hstep.1 page

end PlumeForm
