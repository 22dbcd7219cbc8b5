import PlumeForm.Proofs.Text.Digits
import Mathlib.Data.List.TakeDrop

/-!
# Spans

The span of a text whose front passes the test goes on into the rest (`span_append_of_pos`). So it
ends before the first separator, and behind a run of digits that does not go on.
-/

namespace PlumeForm.Text

theorem span_append_of_pos {p : Char → Bool} {front : List Char} (h : ∀ c ∈ front, p c = true)
    (rest : List Char) : (front ++ rest).span p = (front ++ (rest.span p).1, (rest.span p).2) := by
  simp only [List.span_eq_takeWhile_dropWhile]
  rw [List.takeWhile_append_of_pos h, List.dropWhile_append_of_pos h]

section Separator

variable {separator : Char} {front : List Char}

theorem passes_of_not_mem (h : separator ∉ front) :
    ∀ c ∈ front, decide (c ≠ separator) = true := by
  intro c hc
  refine decide_eq_true ?_
  rintro rfl
  exact h hc

theorem span_of_not_mem (h : separator ∉ front) : front.span (· ≠ separator) = (front, []) := by
  have hspan := span_append_of_pos (passes_of_not_mem h) []
  rw [List.append_nil] at hspan
  rw [hspan]
  simp [List.span_eq_takeWhile_dropWhile]

theorem span_append_cons (h : separator ∉ front) (rest : List Char) :
    (front ++ separator :: rest).span (· ≠ separator) = (front, separator :: rest) := by
  rw [span_append_of_pos (passes_of_not_mem h)]
  simp [List.span_eq_takeWhile_dropWhile]

end Separator

section Digits

variable {ds rest : List Char}

theorem span_of_allDigits (hdigits : AllDigits ds) (hrest : NoLeadingDigit rest) :
    (ds ++ rest).span Char.isDigit = (ds, rest) := by
  rw [span_append_of_pos hdigits, List.span_eq_takeWhile_dropWhile]
  cases rest with
  | nil => simp
  | cons c r => simp [hrest c r rfl]

theorem span_of_digits (h : AllDigits ds) : ds.span Char.isDigit = (ds, []) := by
  have hspan := span_of_allDigits h noLeadingDigit_nil
  rwa [List.append_nil] at hspan

end Digits

end PlumeForm.Text
