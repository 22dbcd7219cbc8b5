import PlumeForm.Text.Blank
import Mathlib.Data.List.TakeWhile

/-!
# Trimmed texts

A trimmed text is a part of the text that has no white space at either end (`trim_head`,
`trim_getLast`). White space that is put around a text is trimmed away again (`trim_around`), and
nothing is left exactly of a text of white space only (`trim_eq_nil_iff`).
-/

namespace PlumeForm.Text

/-! ## What trimming leaves -/

theorem trimEnd_isPrefix (cs : List Char) : trimEnd cs <+: cs := by
  have hsuffix := List.dropWhile_suffix (l := cs.reverse) isBlank
  rw [← List.reverse_prefix, List.reverse_reverse] at hsuffix
  exact hsuffix

theorem mem_of_mem_trim {cs : List Char} {c : Char} (h : c ∈ trim cs) : c ∈ cs :=
  List.dropWhile_subset isBlank ((trimEnd_isPrefix (trimStart cs)).subset h)

theorem mem_trimStart {cs : List Char} {c : Char} (hc : c ∈ cs) (h : isBlank c = false) :
    c ∈ trimStart cs := by
  rw [← List.takeWhile_append_dropWhile (p := isBlank) (l := cs), List.mem_append] at hc
  rcases hc with hc | hc
  · exact absurd (List.all_eq_true.1 List.all_takeWhile c hc) (Bool.eq_false_iff.1 h)
  · exact hc

theorem mem_trim {cs : List Char} {c : Char} (hc : c ∈ cs) (h : isBlank c = false) :
    c ∈ trim cs := by
  have hreverse : c ∈ (trimStart cs).reverse := List.mem_reverse.2 (mem_trimStart hc h)
  exact List.mem_reverse.2 (mem_trimStart hreverse h)

theorem trim_head (cs : List Char) : (trim cs).head?.any isBlank = false := by
  cases h : trim cs with
  | nil => rfl
  | cons c r =>
    -- The front of the trimmed text is the front of the text without its leading white space.
    obtain ⟨back, hback⟩ := trimEnd_isPrefix (trimStart cs)
    have hfront : trimEnd (trimStart cs) = c :: r := h
    rw [hfront] at hback
    exact trimStart_head hback.symm

theorem trim_getLast (cs : List Char) : (trim cs).getLast?.any isBlank = false := by
  rw [trim, trimEnd, List.getLast?_reverse]
  cases h : (trimStart cs).reverse.dropWhile isBlank with
  | nil => rfl
  | cons c r => exact trimStart_head h

/-! ## White space around a text -/

section Around

variable {blanks : List Char} (h : isBlankText blanks = true)
include h

theorem trimStart_append {cs : List Char} : trimStart (blanks ++ cs) = trimStart cs :=
  List.dropWhile_append_of_pos (List.all_eq_true.1 h)

theorem trimEnd_append (cs : List Char) : trimEnd (cs ++ blanks) = trimEnd cs := by
  have hreverse : isBlankText blanks.reverse = true := List.all_reverse.trans h
  rw [trimEnd, List.reverse_append]
  exact congrArg List.reverse (trimStart_append hreverse)

theorem trimStart_of_blank : trimStart blanks = [] :=
  List.dropWhile_eq_nil_iff.2 (List.all_eq_true.1 h)

theorem trim_append (cs : List Char) : trim (cs ++ blanks) = trim cs := by
  rw [trim, trim, trimStart, List.dropWhile_append]
  split
  · next hnil =>
    have hcs : trimStart cs = [] := List.isEmpty_iff.1 hnil
    rw [hcs]
    exact congrArg trimEnd (trimStart_of_blank h)
  · exact trimEnd_append h _

end Around

theorem trim_around {before after : List Char} (hbefore : isBlankText before = true)
    (hafter : isBlankText after = true) (cs : List Char) :
    trim (before ++ cs ++ after) = trim cs := by
  rw [trim_append hafter, trim, trimStart_append hbefore, trim]

theorem trim_eq_nil_iff {cs : List Char} : trim cs = [] ↔ isBlankText cs = true := by
  constructor
  · intro h
    apply List.all_eq_true.2
    intro c hc
    by_contra hblank
    have hmem := mem_trim hc (Bool.eq_false_iff.2 hblank)
    rw [h] at hmem
    cases hmem
  · intro h
    rw [trim, trimStart_of_blank h]
    rfl

end PlumeForm.Text
