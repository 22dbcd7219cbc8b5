import PlumeForm.Proofs.Listing.Rejection
import PlumeForm.Proofs.Text.Splitting
import PlumeForm.Proofs.Text.Trimming

/-!
# Lines that read alike

Of a line under the header nothing counts but its first seven fields, without the white space around
them. Two lines that agree so far are `Alike`, and exchanging them does not change what is read
(`readRecords_congr`). Neither does it matter how the lines of a text end, or whether its last line
is empty: reading a text is reading what stands between its line feeds (`read_ofLines`).
-/

namespace PlumeForm.Listing

open Text

/-! ## Alike lines -/

/-- No reader of records tells the one line from the other. -/
structure Alike (line other : List Char) : Prop where
  blank : isBlankText line = isBlankText other
  record : ∀ area, readRecord area line = readRecord area other

theorem isBlankText_iff_cells {line : List Char} : isBlankText line = true ↔ cells line = [[]] := by
  constructor
  · intro h
    have hcolon : ':' ∉ line := fun hmem => absurd (List.all_eq_true.1 h ':' hmem) (by decide)
    rw [cells, List.splitOn_eq_singleton hcolon, List.map_singleton, trim_eq_nil_iff.2 h]
  · intro h
    obtain ⟨piece, hsplit, hpiece⟩ := List.map_eq_singleton_iff.1 h
    have hline : [':'].intercalate (line.splitOn ':') = line := List.intercalate_splitOn ':'
    rw [hsplit, List.intercalate_singleton] at hline
    rw [← hline]
    exact trim_eq_nil_iff.1 hpiece

/-- Lines with the same fields, apart from white space around them, are alike. -/
theorem Alike.of_cells {line other : List Char} (h : cells line = cells other) :
    Alike line other where
  blank := Bool.eq_iff_iff.2 (by rw [isBlankText_iff_cells, isBlankText_iff_cells, h])
  record := by
    intro area
    unfold cells at h
    rw [readRecord, readRecord, h]

theorem Alike.append_blanks {blanks : List Char} (line : List Char)
    (h : isBlankText blanks = true) : Alike (line ++ blanks) line := by
  have hcolon : ':' ∉ blanks := fun hmem => absurd (List.all_eq_true.1 h ':' hmem) (by decide)
  obtain ⟨pieces, last, hsplit, happend⟩ := exists_splitOn_append line blanks hcolon
  apply Alike.of_cells
  rw [cells, cells, hsplit, happend, List.map_append, List.map_append, List.map_singleton,
    List.map_singleton, trim_append h]

theorem Alike.dropReturn (line : List Char) : Alike (dropReturn line) line := by
  unfold Text.dropReturn
  split
  · next hlast =>
    obtain ⟨front, rfl⟩ := List.getLast?_eq_some_iff.1 hlast
    rw [List.dropLast_concat]
    have hreturn : isBlankText ['\r'] = true := by decide
    obtain ⟨hblank, hrecord⟩ := Alike.append_blanks front hreturn
    exact ⟨hblank.symm, fun area => (hrecord area).symm⟩
  · exact ⟨rfl, fun _ => rfl⟩

/-- Fields behind the seventh do not count. -/
theorem Alike.append_field {line : List Char} (extra : List Char)
    (h : 7 ≤ (line.splitOn ':').length) : Alike (line ++ ':' :: extra) line := by
  have hcells : cells (line ++ ':' :: extra) = cells line ++ cells extra := by
    rw [cells, List.splitOn_append_cons_self, List.map_append]
    rfl
  have hseven : 7 ≤ (cells line).length := by
    rw [cells, List.length_map]
    exact h
  have hfilled : ∀ other : List Char, 7 ≤ (cells other).length → isBlankText other = false := by
    intro other hother
    apply Bool.eq_false_iff.2
    intro hblank
    rw [isBlankText_iff_cells.1 hblank] at hother
    exact absurd hother (by decide)
  refine ⟨?_, fun area => ?_⟩
  · rw [hfilled line hseven, hfilled]
    rw [hcells, List.length_append]
    omega
  · obtain ⟨name, location, lat, latDir, lon, lonDir, elevation, more, hline⟩ := exists_seven hseven
    rw [hline] at hcells
    unfold cells at hline hcells
    rw [readRecord, readRecord, hline, hcells]
    rfl

/-- The field with white space around it, but without a line feed. -/
def Padded (field padded : List Char) : Prop :=
  ∃ before after, isBlankText before = true ∧ isBlankText after = true ∧ '\n' ∉ before ∧
    '\n' ∉ after ∧ padded = before ++ field ++ after

/-- White space around a field brings no other character into it. -/
theorem Padded.not_mem {field padded : List Char} {c : Char} (h : Padded field padded)
    (hc : c ∉ field) (hfeed : isBlank c = true → c = '\n') : c ∉ padded := by
  obtain ⟨before, after, hbefore, hafter, hbeforeFeed, hafterFeed, rfl⟩ := h
  have hblanks : ∀ {blanks : List Char}, isBlankText blanks = true → '\n' ∉ blanks →
      c ∉ blanks := by
    intro blanks hblanks hne hmem
    have heq := hfeed (List.all_eq_true.1 hblanks c hmem)
    exact hne (heq ▸ hmem)
  simp only [List.mem_append, not_or]
  exact ⟨⟨hblanks hbefore hbeforeFeed, hc⟩, hblanks hafter hafterFeed⟩

section Fields

variable {pieces fields : List (List Char)} (h : List.Forall₂ Padded pieces fields)
include h

theorem not_mem_of_padded {c : Char} (hc : ∀ piece ∈ pieces, c ∉ piece)
    (hfeed : isBlank c = true → c = '\n') : ∀ field ∈ fields, c ∉ field := by
  induction h with
  | nil => exact nofun
  | cons hpadded _ ih =>
    obtain ⟨hpiece, hpieces⟩ := List.forall_mem_cons.1 hc
    exact List.forall_mem_cons.2 ⟨hpadded.not_mem hpiece hfeed, ih hpieces⟩

theorem map_trim_of_padded : fields.map trim = pieces.map trim := by
  induction h with
  | nil => rfl
  | cons hpadded _ ih =>
    obtain ⟨before, after, hbefore, hafter, -, -, rfl⟩ := hpadded
    rw [List.map_cons, List.map_cons, trim_around hbefore hafter, ih]

end Fields

/-- White space around fields does not count. -/
theorem Alike.of_padded {line : List Char} {fields : List (List Char)}
    (h : List.Forall₂ Padded (line.splitOn ':') fields) :
    Alike ([':'].intercalate fields) line := by
  have hcolon : ∀ field ∈ fields, ':' ∉ field :=
    not_mem_of_padded h (fun piece hpiece hmem => (of_mem_splitOn hpiece hmem).2 rfl) (by decide)
  have hne : fields ≠ [] := by
    rintro rfl
    exact List.splitOn_ne_nil ':' line (List.forall₂_nil_right_iff.1 h)
  apply Alike.of_cells
  rw [cells, cells, List.splitOn_intercalate ':' hcolon hne, map_trim_of_padded h]

theorem lineFeed_not_mem_of_padded {line : List Char} {fields : List (List Char)}
    (hline : '\n' ∉ line) (h : List.Forall₂ Padded (line.splitOn ':') fields) :
    '\n' ∉ [':'].intercalate fields := by
  have hfields : ∀ field ∈ fields, '\n' ∉ field :=
    not_mem_of_padded h (fun piece hpiece hmem => hline (of_mem_splitOn hpiece hmem).1) fun _ => rfl
  intro hmem
  rcases mem_intercalate hmem with hcolon | ⟨field, hfield, hmem⟩
  · exact absurd hcolon (by decide)
  · exact hfields field hfield hmem

/-! ## Reading alike lines -/

section Reading

variable {area : Float} {room number : Nat}

theorem readRecords_cons_congr {line other : List Char} {rest others : List (List Char)}
    (hline : Alike line other)
    (hrest : ∀ room number,
      readRecords area room number rest = readRecords area room number others) :
    readRecords area room number (line :: rest) =
      readRecords area room number (other :: others) := by
  have hrecord := hline.record area
  cases hother : isBlankText other with
  | true =>
    rw [readRecords_of_blank (hline.blank.trans hother), readRecords_of_blank hother, hrest]
  | false =>
    have hfilled := hline.blank.trans hother
    cases room with
    | zero => rw [readRecords_of_full hfilled, readRecords_of_full hother]
    | succ room =>
      cases hread : readRecord area other with
      | error fault =>
        rw [readRecords_of_error hfilled (hrecord.trans hread), readRecords_of_error hother hread]
      | ok volcano =>
        rw [readRecords_of_ok hfilled (hrecord.trans hread), readRecords_of_ok hother hread, hrest]

theorem readRecords_congr {lines others : List (List Char)} (h : List.Forall₂ Alike lines others) :
    readRecords area room number lines = readRecords area room number others := by
  induction h generalizing room number with
  | nil => rfl
  | cons hline _ ih => exact readRecords_cons_congr hline fun _ _ => ih

end Reading

/-! ## Texts of lines -/

/-- The texts are lines: none of them has a line feed. -/
def AreLines (ls : List (List Char)) : Prop := ∀ line ∈ ls, '\n' ∉ line

/-- The text with line feeds between the lines. -/
def ofLines (ls : List (List Char)) : String := String.ofList (['\n'].intercalate ls)

/-- The table of lines, the header first. -/
def readLines (area : Float) : List (List Char) → Except FormError VolcanoTable
  | [] => .error (failure 1 .missingHeader)
  | first :: rest =>
    if isHeader first then (readRecords area maxRecords 2 rest).map VolcanoTable.mk
    else .error (failure 1 .missingHeader)

theorem read_eq_readLines (text : String) (area : Float) :
    read text area = readLines area (lines text.toList) := by
  unfold read
  cases lines text.toList <;> rfl

theorem isHeader_dropReturn (line : List Char) : isHeader (dropReturn line) = isHeader line := by
  unfold dropReturn
  split
  · next hlast =>
    obtain ⟨front, rfl⟩ := List.getLast?_eq_some_iff.1 hlast
    have hne : header.toList ≠ front ++ ['\r'] := by
      intro heq
      have hheader := congrArg List.getLast? heq
      rw [List.getLast?_concat] at hheader
      exact absurd hheader (by decide)
    rw [List.dropLast_concat, Bool.eq_iff_iff, isHeader, isHeader, List.isPrefixOf_iff_prefix,
      List.isPrefixOf_iff_prefix, List.prefix_concat_iff]
    exact ⟨.inr, fun h => h.resolve_left hne⟩
  · rfl

/-- A line's end does not matter, and neither does an empty line behind the last one. -/
theorem readRecords_lines_intercalate {area : Float} {ls : List (List Char)} (h : AreLines ls)
    (room number : Nat) :
    readRecords area room number (lines (['\n'].intercalate ls)) =
      readRecords area room number ls := by
  induction ls generalizing room number with
  | nil => rfl
  | cons line ls ih =>
    obtain ⟨hline, hrest⟩ := List.forall_mem_cons.1 h
    cases ls with
    | nil =>
      rw [List.intercalate_singleton, lines_of_not_mem hline]
      split
      · next hempty =>
        rw [List.isEmpty_iff.1 hempty, readRecords_of_blank rfl]
        rfl
      · rfl
    | cons next ls =>
      rw [List.intercalate_cons_cons, List.append_assoc, List.singleton_append, lines_append hline]
      exact readRecords_cons_congr (.dropReturn line) (ih hrest)

theorem read_ofLines {area : Float} {ls : List (List Char)} (h : AreLines ls) :
    read (ofLines ls) area = readLines area ls := by
  rw [read_eq_readLines, ofLines, String.toList_ofList]
  cases ls with
  | nil => rfl
  | cons first rest =>
    obtain ⟨hfirst, hrest⟩ := List.forall_mem_cons.1 h
    cases rest with
    | nil =>
      rw [List.intercalate_singleton, lines_of_not_mem hfirst]
      split
      · next hempty =>
        rw [List.isEmpty_iff.1 hempty]
        rfl
      · rfl
    | cons next rest =>
      rw [List.intercalate_cons_cons, List.append_assoc, List.singleton_append,
        lines_append hfirst]
      simp only [readLines, isHeader_dropReturn, readRecords_lines_intercalate hrest]

end PlumeForm.Listing
