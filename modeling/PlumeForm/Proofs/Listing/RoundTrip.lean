import PlumeForm.Proofs.Listing.Writing

/-!
# Reading a written listing

Reading a listing undoes writing it (`read_write`): at most `maxRecords` records come back in their
order, south and west with negated numbers, the elevation as the plume's lowest height, an empty
location as none, and all with the source area of the settings.
-/

namespace PlumeForm.Listing

open Text Decimal

theorem readNumber_text (n : NumberText) (what : String) :
    readNumber what n.text.toList = .ok n.value := by
  rw [readNumber, n.reads]

theorem readLocation_text (text : String) :
    readLocation text.toList = if text = "" then none else some text := by
  have hempty : text.toList = [] ↔ text = "" := String.toList_eq_nil_iff
  simp only [readLocation, hempty, String.ofList_toList]

theorem directed_latLetter (r : Record) (x : Float) :
    directed "latitude" "N or S" 'N' 'S' [r.latLetter] x = .ok (if r.south then -x else x) := by
  unfold Record.latLetter
  cases r.south <;> rfl

theorem directed_lonLetter (r : Record) (x : Float) :
    directed "longitude" "E or W" 'E' 'W' [r.lonLetter] x = .ok (if r.west then -x else x) := by
  unfold Record.lonLetter
  cases r.west <;> rfl

/-- The line of a record is read as the volcano that the record describes. -/
theorem readRecord_line (area : Float) (r : Record) :
    readRecord area r.line = .ok (r.volcano area) := by
  have hname : ¬ maxText < r.name.text.toList.length := Nat.not_lt.2 r.name.length_le
  have hlocation : ¬ maxText < r.location.text.toList.length := Nat.not_lt.2 r.location.length_le
  have hne : r.name.text.toList ≠ [] := by
    obtain ⟨c, cs, hcons⟩ := r.exists_cons_name
    rw [hcons]
    exact List.cons_ne_nil _ _
  rw [readRecord, r.map_trim_splitOn_line, Record.fields]
  simp only [readFields, hname, hlocation, hne, if_false, readNumber_text, directed_latLetter,
    directed_lonLetter, readLocation_text, String.ofList_toList, Record.volcano]
  rfl

/-- No line is skipped and none is too many while there is room for the records. -/
theorem readRecords_lines (area : Float) {records : List Record} {room : Nat}
    (h : records.length ≤ room) (line : Nat) :
    readRecords area room line (records.map Record.line) =
      .ok (records.map (Record.volcano area)) := by
  induction records generalizing room line with
  | nil => rfl
  | cons r records ih =>
    cases room with
    | zero => cases h
    | succ room =>
      have hrest := ih (Nat.le_of_succ_le_succ h) (line + 1)
      simp only [List.map_cons, readRecords, r.isBlankText_line, readRecord_line, hrest]
      rfl

/-- Reading a listing undoes writing it, with or without a line feed at its end. -/
theorem read_write (area : Float) (records : List Record) (h : records.length ≤ maxRecords)
    {ending : List Char} (hending : ending = [] ∨ ending = ['\n']) :
    read (write records ending) area = .ok ⟨records.map (Record.volcano area)⟩ := by
  have hheader : isHeader header.toList = true := List.isPrefixOf_iff_prefix.2 (List.prefix_refl _)
  simp only [read, lines_write records hending, hheader, if_true, readRecords_lines area h]
  rfl

/-- A volcano in the south and the east. -/
def ruapehu : Record where
  name := ⟨"Ruapehu", by decide, by decide⟩
  name_ne := by decide
  location := ⟨"New Zealand", by decide, by decide⟩
  lat := ⟨"39.28", 39.28, by decide +kernel⟩
  south := true
  lon := ⟨"175.57", 175.57, by decide +kernel⟩
  west := false
  elevation := ⟨"2797", 2797, by decide +kernel⟩

/-- A volcano in the north and the west, without a location. -/
def spurr : Record where
  name := ⟨"Mount Spurr", by decide, by decide⟩
  name_ne := by decide
  location := ⟨"", by decide, by decide⟩
  lat := ⟨"61.3", 61.3, by decide +kernel⟩
  south := false
  lon := ⟨"152.25", 152.25, by decide +kernel⟩
  west := true
  elevation := ⟨"+3374", 3374, by decide +kernel⟩

/-- The listing of the two. -/
def ruapehuAndSpurr : String :=
  "Puff Volcano Listing File\nRuapehu:New Zealand:39.28:S:175.57:E:2797\n" ++
    "Mount Spurr::61.3:N:152.25:W:+3374"

theorem read_write_ruapehu_spurr :
    [ruapehu, spurr].length ≤ maxRecords ∧
      read ruapehuAndSpurr 25 =
        .ok ⟨[⟨"Ruapehu", some "New Zealand", -39.28, 175.57, 2797, 25⟩,
          ⟨"Mount Spurr", none, 61.3, -152.25, 3374, 25⟩]⟩ := by
  have hlength : [ruapehu, spurr].length ≤ maxRecords := by decide
  have htext : write [ruapehu, spurr] [] = ruapehuAndSpurr := by decide +kernel
  have hread := read_write 25 [ruapehu, spurr] hlength (.inl rfl)
  rw [htext] at hread
  exact ⟨hlength, hread⟩

end PlumeForm.Listing
