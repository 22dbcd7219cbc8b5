import PlumeForm.Proofs.Decimal.Overflow
import PlumeForm.Proofs.Listing.Rejection
import PlumeForm.Proofs.Listing.Writing
import PlumeForm.Proofs.Text.Splitting
import PlumeForm.Proofs.Text.Trimming

/-!
# Tables of accepted listings

A line that is accepted says what some `Record` says (`exists_record_of_readRecord`), however it is
spelled, and a listing that is accepted has one such record for each filled line. So the volcanoes
of its table have trimmed names and locations of limited length, and finite numbers (`read_sound`).
-/

namespace PlumeForm.Listing

open Text Decimal

/-! ## Accepted lines -/

theorem isFieldText_of_mem_cells {line cell : List Char} (hline : '\n' ∉ line)
    (h : cell ∈ cells line) : IsFieldText cell := by
  obtain ⟨piece, hpiece, rfl⟩ := List.mem_map.1 h
  have hmem : ∀ {c}, c ∈ trim piece → c ∈ line ∧ c ≠ ':' := fun hc =>
    of_mem_splitOn hpiece (mem_of_mem_trim hc)
  exact
    { colon := fun hc => (hmem hc).2 rfl
      lineFeed := fun hc => hline (hmem hc).1
      front := trim_head piece
      back := trim_getLast piece }

theorem isFieldText_getD_cells {line : List Char} (hline : '\n' ∉ line) (place : Nat) :
    IsFieldText ((cells line).getD place []) := by
  rw [List.getD_eq_getElem?_getD]
  cases h : (cells line)[place]? with
  | none => decide
  | some cell => exact isFieldText_of_mem_cells hline (List.mem_of_getElem? h)

/-- An accepted line has nothing wrong, and the volcano is the one that it describes. -/
theorem of_readRecord {area : Float} {line : List Char} {volcano : Volcano}
    (h : readRecord area line = .ok volcano) :
    (∀ check ∈ checks line, check.1 = false) ∧ (fieldsOf line).Describe area volcano := by
  have hfollows := follows_readRecord area line
  cases hfault : firstFault? (checks line) with
  | some fault =>
    rw [Follows, hfault] at hfollows
    rw [hfollows] at h
    cases h
  | none =>
    rw [Follows, hfault] at hfollows
    obtain ⟨found, hfound, hdescribe⟩ := hfollows
    rw [h] at hfound
    cases hfound
    refine ⟨fun check hcheck => ?_, hdescribe⟩
    have hnone := List.find?_eq_none.1 (Option.map_eq_none_iff.1 hfault) check hcheck
    exact Bool.eq_false_iff.2 hnone

/-- The label with these characters. -/
def Label.ofChars (cs : List Char) (h : IsFieldText cs) (hlength : cs.length ≤ maxText) :
    Label where
  text := String.ofList cs
  isFieldText := by rwa [String.toList_ofList]
  length_le := by rwa [String.toList_ofList]

/-- The number with these characters. -/
def NumberText.ofChars {cs : List Char} {x : Float} (h : readFinite? cs = some x) : NumberText where
  text := String.ofList cs
  value := x
  reads := by rwa [String.toList_ofList]

theorem ofList_eq_empty_iff {cs : List Char} : String.ofList cs = "" ↔ cs = [] := by
  rw [← String.toList_eq_nil_iff, String.toList_ofList]

/-- What an accepted line says could have been written as a record. -/
theorem exists_record_of_readRecord {area : Float} {line : List Char} {volcano : Volcano}
    (hline : '\n' ∉ line) (h : readRecord area line = .ok volcano) :
    ∃ r : Record, volcano = r.volcano area := by
  obtain ⟨hchecks, hdescribe⟩ := of_readRecord h
  simp only [checks, Fields.checks, List.forall_mem_cons, decide_eq_false_iff_not, Nat.not_lt]
    at hchecks
  obtain ⟨-, hnameLength, hlocationLength, hnameEmpty, -⟩ := hchecks
  cases volcano with
  | mk name location lat lon plumeMin volcanoArea =>
    obtain ⟨hname, hlocation, ⟨x, hlat, hsouth⟩, ⟨y, hlon, hwest⟩, helevation, harea⟩ := hdescribe
    have hnameText : IsFieldText (fieldsOf line).name := isFieldText_getD_cells hline 0
    have hlocationText : IsFieldText (fieldsOf line).location := isFieldText_getD_cells hline 1
    refine ⟨
      { name := .ofChars _ hnameText hnameLength
        name_ne := mt ofList_eq_empty_iff.1 hnameEmpty
        location := .ofChars _ hlocationText hlocationLength
        lat := .ofChars hlat
        south := startsWith 'S' (fieldsOf line).latDir
        lon := .ofChars hlon
        west := startsWith 'W' (fieldsOf line).lonDir
        elevation := .ofChars helevation }, ?_⟩
    simp only [Record.volcano, Label.ofChars, NumberText.ofChars, ofList_eq_empty_iff]
    simp only at hname hlocation hsouth hwest harea
    rw [hname, hlocation, hsouth, hwest, harea]

/-! ## Accepted listings -/

theorem map_eq_ok_iff {ε α β : Type} {f : α → β} {result : Except ε α} {b : β} :
    result.map f = .ok b ↔ ∃ a, result = .ok a ∧ f a = b := by
  cases result <;> simp [Except.map]

/-- Lines are accepted exactly if there is room for the filled ones and each of these is, and then
each is a volcano. -/
theorem readRecords_eq_ok_iff {area : Float} {room number : Nat} {lines : List (List Char)}
    {volcanoes : List Volcano} :
    readRecords area room number lines = .ok volcanoes ↔
      (filled lines).length ≤ room ∧
        List.Forall₂ (fun line volcano => readRecord area line = .ok volcano) (filled lines)
          volcanoes := by
  induction lines generalizing room number volcanoes with
  | nil =>
    constructor
    · rintro ⟨⟩
      exact ⟨Nat.zero_le room, .nil⟩
    · rintro ⟨-, ⟨⟩⟩
      rfl
  | cons line rest ih =>
    cases hline : isBlankText line with
    | true => rw [readRecords_of_blank hline, filled_cons_of_blank hline, ih]
    | false =>
      rw [filled_cons hline, List.length_cons]
      cases room with
      | zero =>
        rw [readRecords_of_full hline]
        exact ⟨nofun, fun h => absurd h.1 (Nat.not_succ_le_zero _)⟩
      | succ room =>
        cases hread : readRecord area line with
        | error fault =>
          rw [readRecords_of_error hline hread]
          refine ⟨nofun, ?_⟩
          rintro ⟨-, hall⟩
          cases hall with
          | cons hvolcano _ =>
            rw [hread] at hvolcano
            cases hvolcano
        | ok volcano =>
          rw [readRecords_of_ok hline hread, map_eq_ok_iff]
          constructor
          · rintro ⟨more, hrest, rfl⟩
            obtain ⟨hlength, hmore⟩ := ih.1 hrest
            exact ⟨Nat.succ_le_succ hlength, .cons hread hmore⟩
          · rintro ⟨hlength, hall⟩
            cases hall with
            | cons hvolcano hmore =>
              rw [hread] at hvolcano
              cases hvolcano
              exact ⟨_, ih.2 ⟨Nat.le_of_succ_le_succ hlength, hmore⟩, rfl⟩

theorem exists_lines_of_read {text : String} {area : Float} {table : VolcanoTable}
    (h : read text area = .ok table) :
    ∃ first rest, lines text.toList = first :: rest ∧
      readRecords area maxRecords 2 rest = .ok table.entries := by
  unfold read at h
  split at h
  · cases h
  · next first rest hlines =>
    split at h
    · obtain ⟨volcanoes, hrest, rfl⟩ := map_eq_ok_iff.1 h
      exact ⟨first, rest, hlines, hrest⟩
    · cases h

theorem exists_records_of_lines {area : Float} {ls : List (List Char)} {volcanoes : List Volcano}
    (hls : ∀ line ∈ ls, '\n' ∉ line)
    (h : List.Forall₂ (fun line volcano => readRecord area line = .ok volcano) ls volcanoes) :
    ∃ records : List Record, volcanoes = records.map (Record.volcano area) := by
  induction h with
  | nil => exact ⟨[], rfl⟩
  | cons hread _ ih =>
    obtain ⟨hline, hrest⟩ := List.forall_mem_cons.1 hls
    obtain ⟨r, rfl⟩ := exists_record_of_readRecord hline hread
    obtain ⟨records, rfl⟩ := ih hrest
    exact ⟨r :: records, rfl⟩

/-- An accepted listing gives the table of a written one. -/
theorem exists_records_of_read {text : String} {area : Float} {table : VolcanoTable}
    (h : read text area = .ok table) :
    ∃ records : List Record, records.length ≤ maxRecords ∧
      table.entries = records.map (Record.volcano area) := by
  obtain ⟨first, rest, hlines, hrest⟩ := exists_lines_of_read h
  obtain ⟨hlength, hall⟩ := readRecords_eq_ok_iff.1 hrest
  have hfeed : ∀ line ∈ filled rest, '\n' ∉ line := by
    intro line hline
    have hmem : line ∈ lines text.toList := hlines ▸ List.mem_cons_of_mem first
      (List.mem_of_mem_filter hline)
    exact lineFeed_not_mem_of_mem_lines hmem
  obtain ⟨records, hrecords⟩ := exists_records_of_lines hfeed hall
  refine ⟨records, ?_, hrecords⟩
  rw [hall.length_eq, hrecords, List.length_map] at hlength
  exact hlength

/-! ## Sound tables -/

/-- The text can name a volcano or its location: there is something in it, it can stand between two
colons, and it is not too long. -/
structure IsLabel (text : String) : Prop where
  ne_empty : text ≠ ""
  isFieldText : IsFieldText text.toList
  length_le : text.toList.length ≤ maxText

theorem NumberText.isFinite_value (n : NumberText) : n.value.isFinite = true :=
  (readFinite?_eq_some_iff.1 n.reads).2

theorem NumberText.isFinite_directed (n : NumberText) (negative : Bool) :
    (if negative then -n.value else n.value).isFinite = true := by
  cases negative with
  | true => exact isFinite_neg_iff.2 n.isFinite_value
  | false => exact n.isFinite_value

/-- A listing that is accepted gives a table of at most `maxRecords` volcanoes. Each of them has a
name, and a location or none, without a colon and without white space at the ends, its numbers are
finite, and its source area is that of the settings. -/
theorem read_sound {text : String} {area : Float} {table : VolcanoTable}
    (h : read text area = .ok table) :
    table.length ≤ maxRecords ∧ ∀ volcano ∈ table.entries,
      IsLabel volcano.name ∧ (∀ location, volcano.location = some location → IsLabel location) ∧
      volcano.lat.isFinite = true ∧ volcano.lon.isFinite = true ∧
      volcano.plumeMin.isFinite = true ∧ volcano.area = area := by
  obtain ⟨records, hlength, hentries⟩ := exists_records_of_read h
  refine ⟨?_, fun volcano hvolcano => ?_⟩
  · rw [VolcanoTable.length, hentries, List.length_map]
    exact hlength
  · rw [hentries] at hvolcano
    obtain ⟨r, -, rfl⟩ := List.mem_map.1 hvolcano
    refine ⟨⟨r.name_ne, r.name.isFieldText, r.name.length_le⟩, ?_, r.lat.isFinite_directed r.south,
      r.lon.isFinite_directed r.west, r.elevation.isFinite_value, rfl⟩
    intro location hlocation
    simp only [Record.volcano] at hlocation
    split at hlocation
    · cases hlocation
    · next hne =>
      cases hlocation
      exact ⟨hne, r.location.isFieldText, r.location.length_le⟩

/-- White space around the fields, a direction in small letters and no location. -/
theorem read_sound_ruapehu :
    read "Puff Volcano Listing File\n Ruapehu : :39.28:south: 175.57:e:2797:crater lake\n\n" 25 =
        .ok ⟨[⟨"Ruapehu", none, -39.28, 175.57, 2797, 25⟩]⟩ ∧
      IsLabel "Ruapehu" ∧ (-39.28 : Float).isFinite = true := by
  have hread : read
      "Puff Volcano Listing File\n Ruapehu : :39.28:south: 175.57:e:2797:crater lake\n\n" 25 =
        .ok ⟨[⟨"Ruapehu", none, -39.28, 175.57, 2797, 25⟩]⟩ := by
    decide +kernel
  obtain ⟨-, hall⟩ := read_sound hread
  obtain ⟨hname, -, hlat, -⟩ := hall _ List.mem_cons_self
  exact ⟨hread, hname, hlat⟩

end PlumeForm.Listing
