import PlumeForm.Listing
import PlumeForm.Proofs.Decimal.Characters
import PlumeForm.Proofs.Text.Splitting

/-!
# Written listings

A `Record` holds what a line of a listing says, with the texts of its numbers as they are to stand
there. `write` puts the lines of records under the header. Every field is found again between its
colons (`map_trim_splitOn_line`), and every line is found again in the text (`lines_write`).
-/

namespace PlumeForm.Listing

open Text Decimal

/-! ## Fields -/

/-- The text comes back when it is written between two colons of a line: nothing in it ends a field
or a line, and there is nothing to trim. -/
structure IsFieldText (cs : List Char) : Prop where
  colon : ':' ∉ cs
  lineFeed : '\n' ∉ cs
  front : cs.head?.any isBlank = false
  back : cs.getLast?.any isBlank = false

theorem isFieldText_iff {cs : List Char} :
    IsFieldText cs ↔ ':' ∉ cs ∧ '\n' ∉ cs ∧ cs.head?.any isBlank = false ∧
      cs.getLast?.any isBlank = false := by
  constructor
  · rintro ⟨hcolon, hlineFeed, hfront, hback⟩
    exact ⟨hcolon, hlineFeed, hfront, hback⟩
  · rintro ⟨hcolon, hlineFeed, hfront, hback⟩
    exact ⟨hcolon, hlineFeed, hfront, hback⟩

instance (cs : List Char) : Decidable (IsFieldText cs) :=
  decidable_of_iff _ isFieldText_iff.symm

theorem IsFieldText.isBlank_front {c : Char} {cs : List Char} (h : IsFieldText (c :: cs)) :
    isBlank c = false :=
  h.front

theorem IsFieldText.isBlank_back {cs : List Char} {c : Char} (h : IsFieldText cs)
    (hc : cs.getLast? = some c) : isBlank c = false := by
  have hback := h.back
  rw [hc] at hback
  exact hback

theorem IsFieldText.trim_eq {cs : List Char} (h : IsFieldText cs) : trim cs = cs := by
  refine trim_eq_self (fun c r hcs => ?_) fun c => h.isBlank_back
  rw [hcs] at h
  exact h.isBlank_front

/-- A name or a location. -/
structure Label where
  text : String
  isFieldText : IsFieldText text.toList
  length_le : text.toList.length ≤ maxText

/-- A finite number with the text that stands for it. -/
structure NumberText where
  text : String
  value : Float
  reads : readFinite? text.toList = some value

namespace NumberText

theorem isNumberChar (n : NumberText) : ∀ c ∈ n.text.toList, IsNumberChar c :=
  isNumberChar_of_read? (readFinite?_eq_some_iff.1 n.reads).1

theorem ne_nil (n : NumberText) : n.text.toList ≠ [] := by
  intro h
  have hread := (readFinite?_eq_some_iff.1 n.reads).1
  rw [h, read?_nil] at hread
  cases hread

theorem isFieldText (n : NumberText) : IsFieldText n.text.toList where
  colon := fun h => (n.isNumberChar _ h).ne_colon rfl
  lineFeed := fun h => (n.isNumberChar _ h).ne_lineFeed rfl
  front := by
    cases h : n.text.toList.head? with
    | none => rfl
    | some c => exact (n.isNumberChar c (List.mem_of_mem_head? h)).isBlank_eq_false
  back := by
    cases h : n.text.toList.getLast? with
    | none => rfl
    | some c => exact (n.isNumberChar c (List.mem_of_getLast? h)).isBlank_eq_false

end NumberText

/-! ## Records -/

/-- What a line says about a volcano. -/
structure Record where
  name : Label
  name_ne : name.text ≠ ""
  location : Label
  lat : NumberText
  south : Bool
  lon : NumberText
  west : Bool
  elevation : NumberText

namespace Record

/-- The letter of the direction of the latitude. -/
def latLetter (r : Record) : Char := if r.south then 'S' else 'N'

/-- The letter of the direction of the longitude. -/
def lonLetter (r : Record) : Char := if r.west then 'W' else 'E'

/-- The seven fields of the line. -/
def fields (r : Record) : List (List Char) :=
  [r.name.text.toList, r.location.text.toList, r.lat.text.toList, [r.latLetter],
    r.lon.text.toList, [r.lonLetter], r.elevation.text.toList]

/-- The line. -/
def line (r : Record) : List Char := [':'].intercalate r.fields

/-- The volcano that the line describes, in a source area. -/
def volcano (area : Float) (r : Record) : Volcano where
  name := r.name.text
  location := if r.location.text = "" then none else some r.location.text
  lat := if r.south then -r.lat.value else r.lat.value
  lon := if r.west then -r.lon.value else r.lon.value
  plumeMin := r.elevation.value
  area := area

theorem isFieldText_latLetter (r : Record) : IsFieldText [r.latLetter] := by
  unfold latLetter
  cases r.south <;> decide

theorem isFieldText_lonLetter (r : Record) : IsFieldText [r.lonLetter] := by
  unfold lonLetter
  cases r.west <;> decide

theorem isFieldText_of_mem_fields {r : Record} {f : List Char} (h : f ∈ r.fields) :
    IsFieldText f := by
  simp only [fields, List.mem_cons, List.not_mem_nil, or_false] at h
  rcases h with rfl | rfl | rfl | rfl | rfl | rfl | rfl
  · exact r.name.isFieldText
  · exact r.location.isFieldText
  · exact r.lat.isFieldText
  · exact r.isFieldText_latLetter
  · exact r.lon.isFieldText
  · exact r.isFieldText_lonLetter
  · exact r.elevation.isFieldText

/-- The line splits into its fields, and these are trimmed already. -/
theorem map_trim_splitOn_line (r : Record) : (r.line.splitOn ':').map trim = r.fields := by
  have hsplit : r.line.splitOn ':' = r.fields :=
    List.splitOn_intercalate ':' (fun f hf => (isFieldText_of_mem_fields hf).colon)
      (List.cons_ne_nil _ _)
  rw [hsplit]
  conv => rhs; rw [← List.map_id r.fields]
  exact List.map_congr_left fun f hf => (isFieldText_of_mem_fields hf).trim_eq

end Record

/-! ## Lines -/

theorem getLast?_intercalate (x : Char) (ls : List (List Char)) {l : List Char} (hl : l ≠ []) :
    ([x].intercalate (ls ++ [l])).getLast? = l.getLast? := by
  induction ls with
  | nil => rw [List.nil_append, List.intercalate_singleton]
  | cons k ls ih =>
    have hne : ls ++ [l] ≠ [] := List.append_ne_nil_of_right_ne_nil _ (List.cons_ne_nil _ _)
    rw [List.cons_append, List.intercalate_cons_of_ne_nil hne, List.getLast?_append, ih,
      List.getLast?_eq_some_getLast hl, Option.some_or]

/-- The line is found again when line feeds are put around it. -/
structure IsLine (l : List Char) : Prop where
  ne_nil : l ≠ []
  lineFeed : '\n' ∉ l
  back : l.getLast? ≠ some '\r'

theorem IsLine.dropReturn_eq {l : List Char} (h : IsLine l) : dropReturn l = l :=
  if_neg h.back

theorem IsLine.lines_eq {l : List Char} (h : IsLine l) : lines l = [l] := by
  have hlines := linesFrom_append h.lineFeed [] []
  rw [List.append_nil, List.append_nil] at hlines
  rw [lines, hlines, linesFrom, List.reverse_reverse, if_neg]
  simpa using h.ne_nil

/-- Lines with line feeds between them, and maybe one behind the last, are found again. -/
theorem lines_intercalate {l : List Char} {ls : List (List Char)} (h : ∀ k ∈ l :: ls, IsLine k)
    {ending : List Char} (hending : ending = [] ∨ ending = ['\n']) :
    lines (['\n'].intercalate (l :: ls) ++ ending) = l :: ls := by
  induction ls generalizing l with
  | nil =>
    have hl := h l (List.mem_cons_self ..)
    rw [List.intercalate_singleton]
    rcases hending with rfl | rfl
    · rw [List.append_nil, hl.lines_eq]
    · rw [lines_append hl.lineFeed, hl.dropReturn_eq, lines_nil]
  | cons k ls ih =>
    have hl := h l (List.mem_cons_self ..)
    have hrest := ih (l := k) fun m hm => h m (List.mem_cons_of_mem _ hm)
    rw [List.intercalate_cons_cons, List.append_assoc, List.append_assoc, List.singleton_append,
      lines_append hl.lineFeed, hl.dropReturn_eq, hrest]

namespace Record

theorem exists_cons_name (r : Record) : ∃ c cs, r.name.text.toList = c :: cs := by
  refine List.exists_cons_of_ne_nil fun h => r.name_ne ?_
  rw [← String.toList_inj, h]
  rfl

theorem line_eq_append (r : Record) :
    r.line = r.name.text.toList ++ ([':'] ++ [':'].intercalate r.fields.tail) :=
  List.intercalate_cons_cons.trans (List.append_assoc ..)

/-- The line starts with the name, and so not with white space. -/
theorem isBlankText_line (r : Record) : isBlankText r.line = false := by
  obtain ⟨c, cs, hname⟩ := r.exists_cons_name
  have htext := r.name.isFieldText
  rw [hname] at htext
  rw [r.line_eq_append, hname, isBlankText, List.cons_append, List.all_cons, htext.isBlank_front,
    Bool.false_and]

theorem isLine_line (r : Record) : IsLine r.line where
  ne_nil := by
    intro h
    have hblank := r.isBlankText_line
    rw [h] at hblank
    cases hblank
  lineFeed := by
    intro h
    rcases mem_intercalate h with h | ⟨f, hf, h⟩
    · exact absurd h (by decide)
    · exact (isFieldText_of_mem_fields hf).lineFeed h
  back := by
    -- The last field is a number, which has no carriage return.
    have hlast : r.line.getLast? = r.elevation.text.toList.getLast? :=
      getLast?_intercalate ':' r.fields.dropLast r.elevation.ne_nil
    rw [hlast]
    intro h
    have hblank := r.elevation.isFieldText.isBlank_back h
    exact absurd hblank (by decide)

end Record

/-- The text of a listing: the header and the lines of the records, with line feeds between them
and what is to stand behind the last. -/
def write (records : List Record) (ending : List Char) : String :=
  String.ofList (['\n'].intercalate (header.toList :: records.map Record.line) ++ ending)

theorem isLine_header : IsLine header.toList where
  ne_nil := by decide
  lineFeed := by decide
  back := by decide

theorem lines_write (records : List Record) {ending : List Char}
    (h : ending = [] ∨ ending = ['\n']) :
    lines (write records ending).toList = header.toList :: records.map Record.line := by
  rw [write, String.toList_ofList]
  refine lines_intercalate (List.forall_mem_cons.2 ⟨isLine_header, fun l hl => ?_⟩) h
  obtain ⟨r, -, rfl⟩ := List.mem_map.1 hl
  exact r.isLine_line

end PlumeForm.Listing
