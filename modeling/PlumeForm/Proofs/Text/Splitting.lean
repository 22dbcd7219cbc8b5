import PlumeForm.Text.Lines

/-!
# Pieces and lines

The pieces between separators have no separator in them, and nothing that was not in the text
(`of_mem_splitOn`). The lines of a text have no line feed (`lineFeed_not_mem_of_mem_lines`), and
they stay the same when a carriage return is put before every line feed (`lines_withReturns`).
-/

namespace PlumeForm.Text

/-! ## Pieces between separators -/

theorem of_mem_splitOn {separator c : Char} {cs piece : List Char}
    (h : piece ∈ cs.splitOn separator) (hc : c ∈ piece) : c ∈ cs ∧ c ≠ separator := by
  induction cs generalizing piece with
  | nil =>
    rw [List.splitOn_nil, List.mem_singleton] at h
    rw [h] at hc
    cases hc
  | cons d ds ih =>
    rw [List.splitOn_cons_eq_if_modifyHead] at h
    split at h
    · rcases List.mem_cons.1 h with rfl | h
      · cases hc
      · exact ⟨List.mem_cons_of_mem d (ih h hc).1, (ih h hc).2⟩
    · next hd =>
      -- The character belongs to the first piece of what follows it.
      obtain ⟨first, rest, hsplit⟩ := List.exists_cons_of_ne_nil (List.splitOn_ne_nil separator ds)
      rw [hsplit] at ih h
      rcases List.mem_cons.1 h with rfl | h
      · rcases List.mem_cons.1 hc with rfl | hc
        · exact ⟨List.mem_cons_self, fun heq => hd (beq_iff_eq.2 heq)⟩
        · have hfirst := ih List.mem_cons_self hc
          exact ⟨List.mem_cons_of_mem d hfirst.1, hfirst.2⟩
      · have hrest := ih (List.mem_cons_of_mem first h) hc
        exact ⟨List.mem_cons_of_mem d hrest.1, hrest.2⟩

/-- An end without separators is part of the last piece. -/
theorem exists_splitOn_append {separator : Char} (cs back : List Char) (h : separator ∉ back) :
    ∃ pieces last, cs.splitOn separator = pieces ++ [last] ∧
      (cs ++ back).splitOn separator = pieces ++ [last ++ back] := by
  induction cs with
  | nil => exact ⟨[], [], rfl, List.splitOn_eq_singleton h⟩
  | cons c cs ih =>
    obtain ⟨pieces, last, hsplit, happend⟩ := ih
    rw [List.cons_append, List.splitOn_cons_eq_if_modifyHead, List.splitOn_cons_eq_if_modifyHead,
      hsplit, happend]
    split
    · exact ⟨[] :: pieces, last, rfl, rfl⟩
    · cases pieces with
      | nil => exact ⟨[], c :: last, rfl, rfl⟩
      | cons piece pieces => exact ⟨(c :: piece) :: pieces, last, rfl, rfl⟩

theorem mem_intercalate {x c : Char} {ls : List (List Char)} (h : c ∈ [x].intercalate ls) :
    c = x ∨ ∃ l ∈ ls, c ∈ l := by
  induction ls with
  | nil => cases h
  | cons l ls ih =>
    cases ls with
    | nil => exact .inr ⟨l, List.mem_cons_self .., by rwa [List.intercalate_singleton] at h⟩
    | cons k ls =>
      rw [List.intercalate_cons_cons, List.append_assoc, List.mem_append, List.singleton_append,
        List.mem_cons] at h
      rcases h with h | h | h
      · exact .inr ⟨l, List.mem_cons_self .., h⟩
      · exact .inl h
      · rcases ih h with h | ⟨f, hf, hc⟩
        · exact .inl h
        · exact .inr ⟨f, List.mem_cons_of_mem _ hf, hc⟩

/-! ## Lines -/

theorem dropReturn_subset (line : List Char) : dropReturn line ⊆ line := by
  unfold dropReturn
  split
  · exact List.dropLast_subset line
  · exact List.Subset.refl line

theorem dropReturn_concat (line : List Char) : dropReturn (line ++ ['\r']) = line := by
  rw [dropReturn, List.getLast?_concat, if_pos rfl, List.dropLast_concat]

theorem dropReturn_of_not_mem {line : List Char} (h : '\r' ∉ line) : dropReturn line = line :=
  if_neg fun hlast => h (List.mem_of_getLast? hlast)

theorem lineFeed_not_mem_of_mem_linesFrom {cs start line : List Char} (hstart : '\n' ∉ start)
    (h : line ∈ linesFrom start cs) : '\n' ∉ line := by
  induction cs generalizing start with
  | nil =>
    rw [linesFrom] at h
    split at h
    · cases h
    · rw [List.mem_singleton.1 h, List.mem_reverse]
      exact hstart
  | cons c cs ih =>
    rw [linesFrom] at h
    split at h
    · rcases List.mem_cons.1 h with rfl | h
      · intro hmem
        exact hstart (List.mem_reverse.1 (dropReturn_subset _ hmem))
      · exact ih List.not_mem_nil h
    · next hc =>
      exact ih (List.not_mem_cons_of_ne_of_not_mem (Ne.symm hc) hstart) h

theorem lineFeed_not_mem_of_mem_lines {cs line : List Char} (h : line ∈ lines cs) :
    '\n' ∉ line :=
  lineFeed_not_mem_of_mem_linesFrom List.not_mem_nil h

/-- A text without line feeds is one line, if it is not empty. -/
theorem lines_of_not_mem {line : List Char} (h : '\n' ∉ line) :
    lines line = if line.isEmpty then [] else [line] := by
  have hlines := linesFrom_append h [] []
  rw [List.append_nil, List.append_nil] at hlines
  rw [lines, hlines, linesFrom, List.isEmpty_reverse, List.reverse_reverse]

/-- The text with a carriage return before every line feed. -/
def withReturns (cs : List Char) : List Char :=
  cs.flatMap fun c => if c = '\n' then ['\r', '\n'] else [c]

theorem linesFrom_withReturns {line cs : List Char} (hline : '\r' ∉ line) (hcs : '\r' ∉ cs) :
    linesFrom line (withReturns cs) = linesFrom line cs := by
  induction cs generalizing line with
  | nil => rfl
  | cons c cs ih =>
    have hc : '\r' ≠ c := List.ne_of_not_mem_cons hcs
    have hrest : '\r' ∉ cs := List.not_mem_of_not_mem_cons hcs
    rw [withReturns, List.flatMap_cons, ← withReturns, linesFrom]
    split
    · have hreverse : '\r' ∉ line.reverse := mt List.mem_reverse.1 hline
      have hend : dropReturn ('\r' :: line).reverse = dropReturn line.reverse := by
        rw [List.reverse_cons, dropReturn_concat, dropReturn_of_not_mem hreverse]
      rw [← ih List.not_mem_nil hrest, ← hend]
      rfl
    · next hfeed =>
      rw [← ih (List.not_mem_cons_of_ne_of_not_mem hc hline) hrest, List.singleton_append,
        linesFrom, if_neg hfeed]

/-- A carriage return before a line feed belongs to the end of the line. -/
theorem lines_withReturns {cs : List Char} (h : '\r' ∉ cs) : lines (withReturns cs) = lines cs :=
  linesFrom_withReturns List.not_mem_nil h

end PlumeForm.Text
