import PlumeForm.Page.Frame

/-!
# The journeys of a frame

A frame is sent to targets, and what it has recorded is taken away now and then. Its document's
address depends on the targets alone: each leads on from the address that those before it led to,
whether it is still recorded or not, and one that leads nowhere leaves the address
(`follows_targets`).
-/

namespace PlumeForm

/-! ## Addresses that follow targets -/

/-- The address after one more target: where it leads to, or the same when it leads nowhere. -/
def Url.arrive (base : Url) (target : String) : Url :=
  match Url.join base target with
  | .ok url => url
  | .error _ => base

/-- The address after targets, first one first. -/
def Url.follow (base : Url) (targets : List String) : Url :=
  targets.foldl Url.arrive base

namespace Url

@[simp] theorem follow_nil (base : Url) : base.follow [] = base := rfl

@[simp] theorem follow_cons (base : Url) (target : String) (rest : List String) :
    base.follow (target :: rest) = (base.arrive target).follow rest := by
  rw [follow, List.foldl_cons, follow]

theorem follow_append (base : Url) (targets more : List String) :
    base.follow (targets ++ more) = (base.follow targets).follow more :=
  List.foldl_append

end Url

namespace Frame

/-- What is recorded of targets by a frame whose document has an address at first, or none: each of
them with the address it leads to from where those before it have led. -/
def journeys (start : Option Url) (targets : List String) : List Navigation :=
  targets.mapIdx fun place target =>
    ⟨target, (start.map (·.follow (targets.take place))).bind fun base =>
      (Url.join base target).toOption⟩

@[simp] theorem journeys_nil (start : Option Url) : journeys start [] = [] := rfl

theorem journeys_cons (start : Option Url) (target : String) (rest : List String) :
    journeys start (target :: rest) =
      ⟨target, start.bind fun base => (Url.join base target).toOption⟩ ::
        journeys (start.map (·.arrive target)) rest := by
  simp [journeys, List.mapIdx_cons, Function.comp_def]

theorem journeys_append (start : Option Url) (targets more : List String) :
    journeys start (targets ++ more) =
      journeys start targets ++ journeys (start.map (·.follow targets)) more := by
  induction targets generalizing start with
  | nil => simp
  | cons target rest ih => simp [journeys_cons, ih, Function.comp_def]

@[simp] theorem map_target_journeys (start : Option Url) (targets : List String) :
    (journeys start targets).map (·.target) = targets := by
  induction targets generalizing start with
  | nil => rfl
  | cons target rest ih => rw [journeys_cons, List.map_cons, ih]

/-- Nothing resolves without an address. -/
theorem resolved_of_mem_journeys {targets : List String} {journey : Navigation}
    (h : journey ∈ journeys none targets) : journey.resolved = none := by
  obtain ⟨place, -, rfl⟩ := List.mem_mapIdx.mp h
  rfl

/-! ## One step -/

/-- Something that is done to a frame: it is sent to a target, or its records are taken away. -/
inductive Step where
  | navigate (target : String)
  | take

/-- What a step takes away, and the frame after it. -/
def perform (frame : Frame) : Step → List Navigation × Frame
  | .navigate target => ([], frame.navigate target)
  | .take => frame.takeNavigations

/-- The targets of a step. -/
def Step.targets : Step → List String
  | .navigate target => [target]
  | .take => []

theorem documentUrl_navigate_eq_map (frame : Frame) (target : String) :
    (frame.navigate target).documentUrl = frame.documentUrl.map (·.arrive target) := by
  rw [documentUrl_navigate, resolve]
  cases frame.documentUrl with
  | none => rfl
  | some base =>
    simp only [Option.bind_some, Option.map_some, Url.arrive]
    cases Url.join base target <;> rfl

theorem documentUrl_perform (frame : Frame) (step : Step) :
    (frame.perform step).2.documentUrl = frame.documentUrl.map (·.follow step.targets) := by
  cases step with
  | navigate target => simp [perform, Step.targets, documentUrl_navigate_eq_map]
  | take => simp [perform, takeNavigations, Step.targets]

/-- A step takes away the first records, if any, and makes new ones behind the last. -/
theorem navigations_perform (frame : Frame) (step : Step) :
    (frame.perform step).1 ++ (frame.perform step).2.navigations =
      frame.navigations ++ journeys frame.documentUrl step.targets := by
  cases step with
  | navigate target => simp [perform, Step.targets, journeys_cons, resolve]
  | take => simp [perform, takeNavigations, Step.targets]

/-- A frame that is sent anywhere loses the forms of its document. -/
theorem formText?_perform (frame : Frame) (step : Step) (form : String) (field : Field) :
    (frame.perform step).2.formText? form field =
      if step.targets = [] then frame.formText? form field else none := by
  cases step <;> rfl

/-! ## Runs -/

/-- All that the steps take away, and the frame after the last one. -/
def performAll : List Step → Frame → List Navigation × Frame
  | [], frame => ([], frame)
  | step :: rest, frame =>
    let (taken, after) := frame.perform step
    let (more, final) := performAll rest after
    (taken ++ more, final)

/-- The targets of steps, in their order. -/
def targets (steps : List Step) : List String :=
  steps.flatMap Step.targets

@[simp] theorem targets_cons (step : Step) (rest : List Step) :
    targets (step :: rest) = step.targets ++ targets rest := rfl

@[simp] theorem targets_map_navigate (since : List String) :
    targets (since.map .navigate) = since := by
  simp [targets, List.flatMap_map, Step.targets]

section Runs

variable (frame : Frame) (steps : List Step)

theorem documentUrl_performAll :
    (performAll steps frame).2.documentUrl = frame.documentUrl.map (·.follow (targets steps)) := by
  induction steps generalizing frame with
  | nil => simp [performAll, targets]
  | cons step rest ih =>
    calc (performAll (step :: rest) frame).2.documentUrl
        = (frame.perform step).2.documentUrl.map (·.follow (targets rest)) := ih _
      _ = frame.documentUrl.map (·.follow (targets (step :: rest))) := by
          simp [documentUrl_perform, Url.follow_append, Function.comp_def]

/-- Nothing that is recorded gets lost, comes twice or changes its place. -/
theorem navigations_performAll :
    (performAll steps frame).1 ++ (performAll steps frame).2.navigations =
      frame.navigations ++ journeys frame.documentUrl (targets steps) := by
  induction steps generalizing frame with
  | nil => simp [performAll, targets]
  | cons step rest ih =>
    have hstep := frame.navigations_perform step
    calc (performAll (step :: rest) frame).1 ++ (performAll (step :: rest) frame).2.navigations
        = (frame.perform step).1 ++ ((performAll rest (frame.perform step).2).1 ++
            (performAll rest (frame.perform step).2).2.navigations) := List.append_assoc _ _ _
      _ = ((frame.perform step).1 ++ (frame.perform step).2.navigations) ++
            journeys (frame.perform step).2.documentUrl (targets rest) := by
          rw [ih, List.append_assoc]
      _ = frame.navigations ++ (journeys frame.documentUrl step.targets ++
            journeys (frame.documentUrl.map (·.follow step.targets)) (targets rest)) := by
          rw [hstep, documentUrl_perform, List.append_assoc]
      _ = frame.navigations ++ journeys frame.documentUrl (targets (step :: rest)) := by
          rw [← journeys_append, targets_cons]

theorem formText?_performAll (form : String) (field : Field) :
    (performAll steps frame).2.formText? form field =
      if targets steps = [] then frame.formText? form field else none := by
  induction steps generalizing frame with
  | nil => rfl
  | cons step rest ih =>
    refine (ih (frame.perform step).2).trans ?_
    by_cases hrest : targets rest = [] <;> simp [hrest, formText?_perform]

/-- Only a step that takes records away takes any. -/
theorem performAll_navigate_fst (since : List String) :
    (performAll (since.map .navigate) frame).1 = [] := by
  induction since generalizing frame with
  | nil => rfl
  | cons target rest ih => exact ih (frame.navigate target)

/-- While nothing is taken away, every target stays recorded. -/
theorem location_performAll_navigate (since : List String) :
    (performAll (since.map .navigate) frame).2.location =
      (frame.navigations.map (·.target) ++ since).getLast? := by
  have h := frame.navigations_performAll (since.map .navigate)
  rw [performAll_navigate_fst, List.nil_append, targets_map_navigate] at h
  rw [location, h, ← List.getLast?_map, List.map_append, map_target_journeys]

theorem performAll_append_snd (rest : List Step) :
    (performAll (steps ++ rest) frame).2 = (performAll rest (performAll steps frame).2).2 := by
  induction steps generalizing frame with
  | nil => rfl
  | cons step steps ih => exact ih _

/-- A frame follows the targets that it is sent to, however its records are taken away in between.
Its address is the one that the targets lead to, one after another. Its records, those that were
taken away and then those that are still there, are one for each target, resolved against the
address of that moment. Without an address it never gets one. The first target costs it its forms,
and `location` is the last target since records were taken away. -/
theorem follows_targets :
    let after := (performAll steps frame).2
    let records := (performAll steps frame).1 ++ after.navigations
    after.documentUrl = frame.documentUrl.map (·.follow (targets steps)) ∧
    records = frame.navigations ++ journeys frame.documentUrl (targets steps) ∧
    (frame.documentUrl = none →
      after.documentUrl = none ∧
      ∀ journey ∈ records, journey ∈ frame.navigations ∨ journey.resolved = none) ∧
    (targets steps ≠ [] → ∀ form field, after.formText? form field = none) ∧
    (∀ since, steps = since.map .navigate →
      after.location = (frame.navigations.map (·.target) ++ since).getLast?) ∧
    (∀ earlier (since : List String), steps = earlier ++ .take :: since.map .navigate →
      after.location = since.getLast?) := by
  intro after records
  have hurl : after.documentUrl = frame.documentUrl.map (·.follow (targets steps)) :=
    documentUrl_performAll frame steps
  have hrecords : records = frame.navigations ++ journeys frame.documentUrl (targets steps) :=
    navigations_performAll frame steps
  refine ⟨hurl, hrecords, fun hnone => ⟨by rw [hurl, hnone, Option.map_none], ?_⟩, ?_, ?_, ?_⟩
  · intro journey hjourney
    rw [hrecords, hnone] at hjourney
    exact (List.mem_append.mp hjourney).imp_right resolved_of_mem_journeys
  · intro hsent form field
    exact (formText?_performAll frame steps form field).trans (if_neg hsent)
  · rintro since rfl
    exact location_performAll_navigate frame since
  · rintro earlier since rfl
    let taken := (performAll earlier frame).2.takeNavigations.2
    calc after.location
        = (performAll (since.map .navigate) taken).2.location :=
          congrArg location (performAll_append_snd frame earlier (.take :: since.map .navigate))
      _ = since.getLast? := location_performAll_navigate taken since

end Runs

/-- The address of the first document. -/
def firstPage : Url :=
  ⟨"http", some { host := .domain "puff.example".toList },
    .segments ["webpuff".toList, "index.pl".toList], none, none⟩

/-- A frame that shows the first document, which has a form. -/
def atFirstPage : Frame :=
  { named "ashxp" with documentUrl := some firstPage }.seed "runParamsForm" .previous "run_1"

/-- The second target leads nowhere. -/
def tour : List Step :=
  [.navigate "pix/puff_bg.gif", .take, .navigate "http://[", .navigate "../movies/run.gif"]

theorem follows_targets_tour :
    (performAll tour atFirstPage).2.documentUrl.map Url.render =
        some "http://puff.example/webpuff/movies/run.gif" ∧
      ((performAll tour atFirstPage).1 ++ (performAll tour atFirstPage).2.navigations).map
          (fun journey => journey.resolved.map Url.render) =
        [some "http://puff.example/webpuff/pix/puff_bg.gif", none,
          some "http://puff.example/webpuff/movies/run.gif"] ∧
      (performAll tour (named "ashxp")).2.documentUrl = none ∧
      (performAll tour atFirstPage).2.formText? "runParamsForm" .previous = none ∧
      (performAll tour atFirstPage).2.location = some "../movies/run.gif" := by
  obtain ⟨hurl, hrecords, -, hforms, -, hlocation⟩ := follows_targets atFirstPage tour
  obtain ⟨-, -, hnone, -⟩ := follows_targets (named "ashxp") tour
  refine ⟨?_, ?_, (hnone rfl).1, hforms (by decide) _ _,
    hlocation [.navigate "pix/puff_bg.gif"] ["http://[", "../movies/run.gif"] rfl⟩
  · rw [hurl]
    decide +kernel
  · rw [hrecords]
    decide +kernel

end Frame

end PlumeForm
