import PlumeForm.Proofs.Listing.Lines

/-!
# The layout of a listing

A listing reads the same however its lines end, with more fields behind the seventh and with white
space around its fields. Blank lines between the records do not change a table, and they change an
error in nothing but the number of its line, by as many lines as were put before it
(`read_layout`).
-/

namespace PlumeForm

/-! ## Errors with other line numbers -/

/-- The error with another number for the line that is at fault. -/
def FormError.moveLine (move : Nat → Nat) : FormError → FormError
  | .volcanoList line reason => .volcanoList (move line) reason
  | e => e

namespace Listing

open Text

/-- The result with other numbers for the line that is at fault; a table stays as it is. -/
def moved {α : Type} (move : Nat → Nat) (result : Except FormError α) : Except FormError α :=
  result.mapError (.moveLine move)

section Moved

variable {α β : Type}

theorem moved_map (move : Nat → Nat) (f : α → β) (result : Except FormError α) :
    moved move (result.map f) = (moved move result).map f := by
  cases result <;> rfl

theorem moved_moved (move again : Nat → Nat) (result : Except FormError α) :
    moved again (moved move result) = moved (fun line => again (move line)) result := by
  cases result with
  | ok a => rfl
  | error e => cases e <;> rfl

end Moved

/-! ## Blank lines -/

section Blank

variable {area : Float} {room number : Nat}

/-- Lines that are counted from a later number on are at fault under a later number. -/
theorem readRecords_add (k : Nat) (lines : List (List Char)) :
    readRecords area room (number + k) lines =
      moved (· + k) (readRecords area room number lines) := by
  induction lines generalizing room number with
  | nil => rfl
  | cons line rest ih =>
    have hrest : ∀ room, readRecords area room (number + k + 1) rest =
        moved (· + k) (readRecords area room (number + 1) rest) := by
      intro room
      rw [Nat.add_right_comm, ih]
    cases hline : isBlankText line with
    | true => rw [readRecords_of_blank hline, readRecords_of_blank hline, hrest]
    | false =>
      cases room with
      | zero =>
        rw [readRecords_of_full hline, readRecords_of_full hline]
        rfl
      | succ room =>
        cases hread : readRecord area line with
        | error fault =>
          rw [readRecords_of_error hline hread, readRecords_of_error hline hread]
          rfl
        | ok volcano =>
          rw [readRecords_of_ok hline hread, readRecords_of_ok hline hread, hrest, moved_map]

/-- Blank lines only count as lines. -/
theorem readRecords_append_blanks {blanks : List (List Char)}
    (h : ∀ line ∈ blanks, isBlankText line = true) (rest : List (List Char)) :
    readRecords area room number (blanks ++ rest) =
      readRecords area room (number + blanks.length) rest := by
  induction blanks generalizing number with
  | nil => rfl
  | cons line blanks ih =>
    obtain ⟨hline, hblanks⟩ := List.forall_mem_cons.1 h
    rw [List.cons_append, readRecords_of_blank hline, ih hblanks, List.length_cons,
      Nat.add_right_comm, Nat.add_assoc]

end Blank

/-! ## Lines spread out -/

/-- The lines with other lines between them: `gap place` before the line at each place, counted from
0, and the gap after the last of these places at the end. -/
def spread (gap : Nat → List (List Char)) : List (List Char) → List (List Char)
  | [] => gap 0
  | line :: rest => gap 0 ++ line :: spread (fun place => gap (place + 1)) rest

/-- How many lines the first so many gaps have. -/
def inserted (gap : Nat → List (List Char)) (count : Nat) : Nat :=
  ((List.range count).flatMap gap).length

theorem inserted_succ (gap : Nat → List (List Char)) (count : Nat) :
    inserted gap (count + 1) =
      (gap 0).length + inserted (fun place => gap (place + 1)) count := by
  rw [inserted, List.range_succ_eq_map, List.flatMap_cons, List.flatMap_map, List.length_append,
    inserted]

theorem areLines_spread {gap : Nat → List (List Char)} {lines : List (List Char)}
    (hgap : ∀ place, AreLines (gap place)) (h : AreLines lines) : AreLines (spread gap lines) := by
  induction lines generalizing gap with
  | nil => exact hgap 0
  | cons line rest ih =>
    obtain ⟨hline, hrest⟩ := List.forall_mem_cons.1 h
    refine List.forall_mem_append.2 ⟨hgap 0, List.forall_mem_cons.2 ⟨hline, ?_⟩⟩
    exact ih (fun place => hgap (place + 1)) hrest

theorem readRecords_spread {area : Float} {room : Nat} {gap : Nat → List (List Char)}
    (hgap : ∀ place, ∀ line ∈ gap place, isBlankText line = true) (lines : List (List Char)) :
    readRecords area room 0 (spread gap lines) =
      moved (fun place => place + inserted gap (place + 1)) (readRecords area room 0 lines) := by
  induction lines generalizing room gap with
  | nil =>
    rw [spread, ← List.append_nil (gap 0), readRecords_append_blanks (hgap 0)]
    rfl
  | cons line rest ih =>
    -- The gap before the line counts for the line and for all lines behind it.
    have hrest : ∀ room, readRecords area room (0 + (gap 0).length + 1)
        (spread (fun place => gap (place + 1)) rest) =
          moved (fun place => place + inserted gap (place + 1)) (readRecords area room 1 rest) := by
      intro room
      have hone : readRecords area room 1 rest = moved (· + 1) (readRecords area room 0 rest) :=
        readRecords_add 1 rest
      rw [Nat.add_assoc, readRecords_add, ih fun place => hgap (place + 1), hone, moved_moved,
        moved_moved]
      congr 1
      funext place
      rw [inserted_succ gap (place + 1)]
      omega
    rw [spread, readRecords_append_blanks (hgap 0)]
    cases hline : isBlankText line with
    | true => rw [readRecords_of_blank hline, readRecords_of_blank hline, hrest]
    | false =>
      have hfirst : ∀ fault, failure (0 + (gap 0).length) fault =
          (failure 0 fault).moveLine fun place => place + inserted gap (place + 1) := by
        intro fault
        have hone : inserted gap 1 = (gap 0).length := inserted_succ gap 0
        rw [← hone]
        rfl
      cases room with
      | zero =>
        rw [readRecords_of_full hline, readRecords_of_full hline, hfirst]
        rfl
      | succ room =>
        cases hread : readRecord area line with
        | error fault =>
          rw [readRecords_of_error hline hread, readRecords_of_error hline hread, hfirst]
          rfl
        | ok volcano =>
          rw [readRecords_of_ok hline hread, readRecords_of_ok hline hread, hrest, moved_map]

/-- Of all lines of a text, only those under the header are spread out, and the header is the line
with number 1. -/
theorem readLines_spread {area : Float} {gap : Nat → List (List Char)}
    (hgap : ∀ place, ∀ line ∈ gap place, isBlankText line = true) (first : List Char)
    (rest : List (List Char)) :
    readLines area (first :: spread gap rest) =
      moved (fun line => line + inserted gap (line - 1)) (readLines area (first :: rest)) := by
  simp only [readLines]
  split
  · have htwo : ∀ lines, readRecords area maxRecords 2 lines =
        moved (· + 2) (readRecords area maxRecords 0 lines) := readRecords_add 2
    rw [htwo, htwo, readRecords_spread hgap, moved_map, moved_moved, moved_moved]
    congr 2
    funext place
    rw [Nat.add_right_comm]
    rfl
  · rfl

/-! ## Lines exchanged -/

theorem Alike.refl (line : List Char) : Alike line line := ⟨rfl, fun _ => rfl⟩

/-- A line under the header can be exchanged for one that is alike. -/
theorem readLines_exchange {area : Float} {line other : List Char} (h : Alike other line)
    (first : List Char) (before after : List (List Char)) :
    readLines area (first :: (before ++ other :: after)) =
      readLines area (first :: (before ++ line :: after)) := by
  have hall : List.Forall₂ Alike (before ++ other :: after) (before ++ line :: after) :=
    List.rel_append (List.forall₂_same.2 fun l _ => Alike.refl l)
      (.cons h (List.forall₂_same.2 fun l _ => Alike.refl l))
  simp only [readLines, readRecords_congr hall]

theorem areLines_exchange {first line other : List Char} {before after : List (List Char)}
    (h : AreLines (first :: (before ++ line :: after))) (hother : '\n' ∉ other) :
    AreLines (first :: (before ++ other :: after)) := by
  obtain ⟨hfirst, hrest⟩ := List.forall_mem_cons.1 h
  obtain ⟨hbefore, hlines⟩ := List.forall_mem_append.1 hrest
  have hafter := (List.forall_mem_cons.1 hlines).2
  exact List.forall_mem_cons.2
    ⟨hfirst, List.forall_mem_append.2 ⟨hbefore, List.forall_mem_cons.2 ⟨hother, hafter⟩⟩⟩

/-! ## The layout -/

/-- The layout of a listing does not matter. A text without carriage returns reads the same with one
before every line feed. Blank lines under the header leave a table as it is, and of an error they
leave all but the line number, which grows by the number of lines that were put before the line at
fault. A line under the header with seven fields or more can get further fields at its end, and
fields of any line under the header can get white space around them. -/
theorem read_layout (area : Float) :
    (∀ text : String, '\r' ∉ text.toList →
      read (String.ofList (withReturns text.toList)) area = read text area) ∧
    (∀ first rest gap, AreLines (first :: rest) →
      (∀ place, AreLines (gap place) ∧ ∀ line ∈ gap place, isBlankText line = true) →
      read (ofLines (first :: spread gap rest)) area =
        moved (fun line => line + inserted gap (line - 1)) (read (ofLines (first :: rest)) area)) ∧
    ∀ first before line after, AreLines (first :: (before ++ line :: after)) →
      (∀ extra, '\n' ∉ extra → 7 ≤ (line.splitOn ':').length →
        read (ofLines (first :: (before ++ (line ++ ':' :: extra) :: after))) area =
          read (ofLines (first :: (before ++ line :: after))) area) ∧
      ∀ fields, List.Forall₂ Padded (line.splitOn ':') fields →
        read (ofLines (first :: (before ++ [':'].intercalate fields :: after))) area =
          read (ofLines (first :: (before ++ line :: after))) area := by
  refine ⟨?ends, ?blanks, fun first before line after h => ⟨?fields, ?spaces⟩⟩
  case ends =>
    intro text htext
    rw [read_eq_readLines, read_eq_readLines, String.toList_ofList, lines_withReturns htext]
  case blanks =>
    intro first rest gap h hgap
    obtain ⟨hfirst, hrest⟩ := List.forall_mem_cons.1 h
    have hspread : AreLines (first :: spread gap rest) :=
      List.forall_mem_cons.2 ⟨hfirst, areLines_spread (fun place => (hgap place).1) hrest⟩
    rw [read_ofLines hspread, read_ofLines h, readLines_spread fun place => (hgap place).2]
  case fields =>
    intro extra hextra hseven
    have hline : '\n' ∉ line := h line (by simp)
    have hlonger : '\n' ∉ line ++ ':' :: extra := by simp [hline, hextra]
    rw [read_ofLines (areLines_exchange h hlonger), read_ofLines h,
      readLines_exchange (Alike.append_field extra hseven)]
  case spaces =>
    intro fields hfields
    have hline : '\n' ∉ line := h line (by simp)
    rw [read_ofLines (areLines_exchange h (lineFeed_not_mem_of_padded hline hfields)),
      read_ofLines h, readLines_exchange (Alike.of_padded hfields)]

/-- A line that is accepted. -/
def spurrLine : List Char := "Spurr:AK:61.3:N:152:W:3374".toList

/-- The table of a listing with this line alone. -/
def spurrTable : VolcanoTable := ⟨[⟨"Spurr", some "AK", 61.3, -152, 3374, 0⟩]⟩

/-- A line without a name. -/
def namelessLine : List Char := ":AK:x:N:1:Q:2".toList

/-- Two blank lines behind the first line. -/
def gapBehindFirst (place : Nat) : List (List Char) :=
  if place = 1 then [[' ', '\r'], ['\t']] else []

theorem padded_spurrLine : List.Forall₂ Padded (spurrLine.splitOn ':')
    [" Spurr".toList, "AK ".toList, "61.3".toList, ['N'], "152".toList, ['W'],
      "\t3374\r".toList] := by
  have hsplit : spurrLine.splitOn ':' =
      ["Spurr".toList, "AK".toList, "61.3".toList, ['N'], "152".toList, ['W'], "3374".toList] := by
    decide +kernel
  have hsame : ∀ field, Padded field field := fun field =>
    ⟨[], [], rfl, rfl, nofun, nofun, (List.append_nil field).symm⟩
  have hname : Padded "Spurr".toList " Spurr".toList :=
    ⟨[' '], [], by decide, rfl, by decide, nofun, by decide⟩
  have hlocation : Padded "AK".toList "AK ".toList :=
    ⟨[], [' '], rfl, by decide, nofun, by decide, by decide⟩
  have helevation : Padded "3374".toList "\t3374\r".toList :=
    ⟨['\t'], ['\r'], by decide, by decide, by decide, by decide, by decide⟩
  rw [hsplit]
  exact .cons hname <| .cons hlocation <| .cons (hsame _) <| .cons (hsame _) <| .cons (hsame _) <|
    .cons (hsame _) <| .cons helevation .nil

/-- Carriage returns and blank lines in a listing that is rejected, and blank lines, an eighth field
and white space around fields in one that is not. -/
theorem read_layout_spurr :
    read "Puff Volcano Listing File\r\nSpurr:AK:61.3:N:152:W:3374\r\n:AK:x:N:1:Q:2" 0 =
        .error (.volcanoList 3 "volcano name is empty") ∧
      read "Puff Volcano Listing File\nSpurr:AK:61.3:N:152:W:3374\n \r\n\t\n:AK:x:N:1:Q:2"
        0 = .error (.volcanoList 5 "volcano name is empty") ∧
      read "Puff Volcano Listing File\nSpurr:AK:61.3:N:152:W:3374\n \r\n\t" 0 =
        .ok spurrTable ∧
      read "Puff Volcano Listing File\nSpurr:AK:61.3:N:152:W:3374:ice:" 0 = .ok spurrTable ∧
      read "Puff Volcano Listing File\n Spurr:AK :61.3:N:152:W:\t3374\r" 0 = .ok spurrTable := by
  have hgap : ∀ place, AreLines (gapBehindFirst place) ∧
      ∀ line ∈ gapBehindFirst place, isBlankText line = true := by
    intro place
    unfold gapBehindFirst AreLines
    split <;> decide
  have hbad : read (ofLines [header.toList, spurrLine, namelessLine]) 0 =
      .error (.volcanoList 3 "volcano name is empty") := by decide +kernel
  have hbadLines : AreLines [header.toList, spurrLine, namelessLine] := by
    unfold AreLines
    decide +kernel
  have hgood : read (ofLines [header.toList, spurrLine]) 0 = .ok spurrTable := by decide +kernel
  have hgoodLines : AreLines [header.toList, spurrLine] := by
    unfold AreLines
    decide +kernel
  obtain ⟨hends, hblanks, hrest⟩ := read_layout 0
  obtain ⟨hfields, hspaces⟩ := hrest header.toList [] spurrLine [] hgoodLines
  refine ⟨?_, ?_, ?_, ?_, ?_⟩
  · have hreturns := hends (ofLines [header.toList, spurrLine, namelessLine]) (by decide +kernel)
    refine .trans (congrArg (read · 0) ?_) (hreturns.trans hbad)
    decide +kernel
  · have hspread := hblanks header.toList [spurrLine, namelessLine] gapBehindFirst hbadLines hgap
    refine .trans (congrArg (read · 0) ?_) (hspread.trans (congrArg (moved _) hbad))
    decide +kernel
  · have hspread := hblanks header.toList [spurrLine] gapBehindFirst hgoodLines hgap
    refine .trans (congrArg (read · 0) ?_) (hspread.trans (congrArg (moved _) hgood))
    decide +kernel
  · have hfield := hfields "ice:".toList (by decide) (by decide +kernel)
    refine .trans (congrArg (read · 0) ?_) (hfield.trans hgood)
    decide +kernel
  · have hspace := hspaces _ padded_spurrLine
    refine .trans (congrArg (read · 0) ?_) (hspace.trans hgood)
    decide +kernel

end Listing

end PlumeForm
