import PlumeForm.Endpoint
import Mathlib.Data.List.Basic

/-!
# What a target tells of its run

A target is put together as it is, so two runs may share one: exactly if a directory goes on with
the words that stand before a session, and then with the beginning of the other run's session
(`sessionQuery_eq_iff`). A directory without an ampersand does not go on so. Among such directories
a target tells the run and the session, whatever the session is (`target_eq_iff`).
-/

namespace PlumeForm

/-! ## Two texts with a separator between them -/

namespace Text

variable {c : Char} {tail a a' b b' : List Char}

/-- A separator does not overlap with itself when its first character is nowhere else in it. -/
theorem separator_append_eq_iff (hc : c ∉ tail) :
    c :: tail ++ b = a ++ (c :: tail ++ b') ↔
      a = [] ∧ b = b' ∨ ∃ t, a = c :: tail ++ t ∧ b = t ++ (c :: tail ++ b') := by
  constructor
  · intro h
    rcases List.append_eq_append_iff.1 h with ⟨t, ha, hb⟩ | ⟨t, hseparator, hrest⟩
    · exact .inr ⟨t, ha, hb⟩
    · -- The second separator begins within the first one, or right behind it.
      cases a with
      | nil =>
        rw [List.nil_append] at h
        exact .inl ⟨rfl, List.append_cancel_left h⟩
      | cons d a =>
        cases t with
        | nil =>
          rw [List.append_nil] at hseparator
          refine .inr ⟨[], ?_, hrest.symm⟩
          rw [hseparator, List.append_nil]
        | cons x t =>
          have hx : c = x := (List.cons.inj hrest).1
          have htail : tail = a ++ x :: t := (List.cons.inj hseparator).2
          refine absurd ?_ hc
          rw [htail, hx]
          exact List.mem_append_right a List.mem_cons_self
  · rintro (⟨rfl, rfl⟩ | ⟨t, rfl, rfl⟩)
    · rfl
    · simp only [List.append_assoc]

/-- Two texts that are put together around a separator can be told apart again, unless one of them
has a separator of its own: then that may be the one between them. -/
theorem append_separator_eq_iff (hc : c ∉ tail) :
    a ++ (c :: tail ++ b) = a' ++ (c :: tail ++ b') ↔
      a = a' ∧ b = b' ∨
        (∃ t, a' = a ++ (c :: tail ++ t) ∧ b = t ++ (c :: tail ++ b')) ∨
        ∃ t, a = a' ++ (c :: tail ++ t) ∧ b' = t ++ (c :: tail ++ b) := by
  constructor
  · intro h
    rcases List.append_eq_append_iff.1 h with ⟨u, rfl, hu⟩ | ⟨u, rfl, hu⟩
    · rcases (separator_append_eq_iff hc).1 hu with ⟨rfl, rfl⟩ | ⟨t, rfl, rfl⟩
      · exact .inl ⟨(List.append_nil a).symm, rfl⟩
      · exact .inr (.inl ⟨t, rfl, rfl⟩)
    · rcases (separator_append_eq_iff hc).1 hu with ⟨rfl, rfl⟩ | ⟨t, rfl, rfl⟩
      · exact .inl ⟨List.append_nil a', rfl⟩
      · exact .inr (.inr ⟨t, rfl, rfl⟩)
  · rintro (⟨rfl, rfl⟩ | ⟨t, rfl, rfl⟩ | ⟨t, rfl, rfl⟩)
    · rfl
    · simp only [List.append_assoc, List.cons_append]
    · simp only [List.append_assoc, List.cons_append]

end Text

/-! ## Queries -/

variable {script previous previous' session session' : String}

/-- The directory of the second run goes on, behind the one of the first, with the words that stand
before a session and a beginning of the first run's session. -/
def QueryOverlaps (previous session previous' session' : String) : Prop :=
  ∃ t, previous' = previous ++ "&sessionID=" ++ t ∧ session = t ++ "&sessionID=" ++ session'

theorem queryOverlaps_iff :
    QueryOverlaps previous session previous' session' ↔
      ∃ t, previous'.toList = previous.toList ++ ('&' :: "sessionID=".toList ++ t) ∧
        session.toList = t ++ ('&' :: "sessionID=".toList ++ session'.toList) := by
  constructor
  · rintro ⟨t, rfl, rfl⟩
    exact ⟨t.toList, by simp, by simp⟩
  · rintro ⟨t, hprevious, hsession⟩
    refine ⟨String.ofList t, ?_, ?_⟩
    · rw [← String.toList_inj, hprevious]
      simp
    · rw [← String.toList_inj, hsession]
      simp

theorem QueryOverlaps.ampersand_mem (h : QueryOverlaps previous session previous' session') :
    '&' ∈ previous'.toList := by
  obtain ⟨t, hprevious, -⟩ := queryOverlaps_iff.1 h
  rw [hprevious]
  exact List.mem_append_right _ List.mem_cons_self

theorem toList_sessionQuery :
    (sessionQuery script previous session).toList =
      (script ++ "?previous=").toList ++
        (previous.toList ++ ('&' :: "sessionID=".toList ++ session.toList)) := by
  simp [sessionQuery]

/-- Two runs share a target exactly if they are the same, or one query overlaps with the other. -/
theorem sessionQuery_eq_iff :
    sessionQuery script previous session = sessionQuery script previous' session' ↔
      previous = previous' ∧ session = session' ∨
        QueryOverlaps previous session previous' session' ∨
        QueryOverlaps previous' session' previous session := by
  rw [← String.toList_inj, toList_sessionQuery, toList_sessionQuery, List.append_cancel_left_eq,
    Text.append_separator_eq_iff (by decide), queryOverlaps_iff, queryOverlaps_iff,
    String.toList_inj, String.toList_inj]

/-- With an ampersand in its directory, a run can share the target of another one. -/
example : sessionQuery "run.pl" "tmp&sessionID=8" "9" =
    sessionQuery "run.pl" "tmp" "8&sessionID=9" := by decide

theorem sessionQuery_inj (h : '&' ∉ previous.toList) (h' : '&' ∉ previous'.toList) :
    sessionQuery script previous session = sessionQuery script previous' session' ↔
      previous = previous' ∧ session = session' := by
  rw [sessionQuery_eq_iff]
  constructor
  · rintro (hsame | hoverlap | hoverlap)
    · exact hsame
    · exact absurd hoverlap.ampersand_mem h'
    · exact absurd hoverlap.ampersand_mem h
  · exact .inl

/-! ## Targets -/

namespace Endpoint

/-- Runs in directories without an ampersand share a target exactly if they share both the directory
and the session. -/
theorem target_eq_iff (paths : EndpointPaths) (h : '&' ∉ previous.toList)
    (h' : '&' ∉ previous'.toList) (session session' : String) :
    ((runParams previous session).target paths = (runParams previous' session').target paths ↔
        previous = previous' ∧ session = session') ∧
      ((ashxpOptions previous session).target paths =
          (ashxpOptions previous' session').target paths ↔
        previous = previous' ∧ session = session') :=
  ⟨sessionQuery_inj h h', sessionQuery_inj h h'⟩

/-- A session that holds the words before a session, and a script with a query of its own. -/
theorem target_eq_iff_nested :
    let paths : EndpointPaths := { runParamsScript := "run.pl?previous=0&sessionID=1" }
    (runParams "tmp" "8&sessionID=9").target paths =
        "run.pl?previous=0&sessionID=1?previous=tmp&sessionID=8&sessionID=9" ∧
      (runParams "tmp" "8&sessionID=9").target paths ≠ (runParams "tmp" "9").target paths ∧
      (ashxpOptions "tmp" "8&sessionID=9").target paths ≠
        (ashxpOptions "tmp" "9").target paths := by
  intro paths
  have hdirectory : '&' ∉ "tmp".toList := by decide
  obtain ⟨hparams, hoptions⟩ := target_eq_iff paths hdirectory hdirectory "8&sessionID=9" "9"
  have hsession : ¬ ("tmp" = "tmp" ∧ "8&sessionID=9" = "9") := by decide
  exact ⟨by decide +kernel, mt hparams.1 hsession, mt hoptions.1 hsession⟩

end Endpoint

end PlumeForm
