import Mathlib.Data.List.Forall2
import PlumeForm.Proofs.Listing.Faults

/-!
# Where a listing is rejected

A listing may have several lines with faults, and more lines than it may have. `offence?` says what
is wrong with a line under the header. Main statement: a listing is rejected for its first line with
something wrong, under the number of that line, and one without such a line becomes a table with one
volcano for each line that is not blank (`read_first_offence`).
-/

namespace PlumeForm.Listing

open Text

/-! ## Lines under the header -/

/-- The lines that are not blank. -/
def filled (lines : List (List Char)) : List (List Char) :=
  lines.filter (!isBlankText ·)

/-- What is wrong with a line when so many filled lines may stand under the header and so many stand
before this one. A blank line has nothing wrong. -/
def faultOf? (room before : Nat) (line : List Char) : Option Fault :=
  if isBlankText line then none
  else if room ≤ before then some .tooManyRecords
  else firstFault? (checks line)

/-- What is wrong with the line at a place among lines of which so many may be filled. -/
def offence? (room : Nat) (lines : List (List Char)) (place : Nat) : Option Fault :=
  lines[place]?.bind (faultOf? room (filled (lines.take place)).length)

section Lines

variable {area : Float} {room number place : Nat} {line : List Char} {rest : List (List Char)}

theorem filled_cons_of_blank (h : isBlankText line = true) :
    filled (line :: rest) = filled rest := by
  simp [filled, h]

theorem filled_cons (h : isBlankText line = false) :
    filled (line :: rest) = line :: filled rest := by
  simp [filled, h]

theorem offence?_zero (h : isBlankText line = false) :
    offence? room (line :: rest) 0 =
      if room = 0 then some .tooManyRecords else firstFault? (checks line) := by
  simp [offence?, faultOf?, h, filled]

theorem offence?_succ_of_blank (h : isBlankText line = true) :
    offence? room (line :: rest) (place + 1) = offence? room rest place := by
  rw [offence?, List.take_succ_cons, filled_cons_of_blank h, List.getElem?_cons_succ, offence?]

theorem offence?_succ (h : isBlankText line = false) :
    offence? (room + 1) (line :: rest) (place + 1) = offence? room rest place := by
  have hroom : ∀ before, faultOf? (room + 1) (before + 1) = faultOf? room before := by
    intro before
    funext l
    simp only [faultOf?, Nat.add_le_add_iff_right]
  rw [offence?, List.take_succ_cons, filled_cons h, List.getElem?_cons_succ, List.length_cons,
    hroom, offence?]

/-- A blank line is passed over. -/
theorem readRecords_of_blank (h : isBlankText line = true) :
    readRecords area room number (line :: rest) = readRecords area room (number + 1) rest := by
  cases room <;> rw [readRecords, if_pos h]

theorem readRecords_of_full (hline : isBlankText line = false) :
    readRecords area 0 number (line :: rest) = .error (failure number .tooManyRecords) := by
  rw [readRecords, if_neg (Bool.eq_false_iff.1 hline)]

theorem readRecords_of_error {fault : Fault} (hline : isBlankText line = false)
    (h : readRecord area line = .error fault) :
    readRecords area (room + 1) number (line :: rest) = .error (failure number fault) := by
  rw [readRecords, if_neg (Bool.eq_false_iff.1 hline)]
  simp only [h]

theorem readRecords_of_ok {volcano : Volcano} (hline : isBlankText line = false)
    (h : readRecord area line = .ok volcano) :
    readRecords area (room + 1) number (line :: rest) =
      (readRecords area room (number + 1) rest).map (volcano :: ·) := by
  rw [readRecords, if_neg (Bool.eq_false_iff.1 hline)]
  simp only [h]
  cases readRecords area room (number + 1) rest <;> rfl

/-- A filled line with something wrong ends the reading. -/
theorem readRecords_of_fault {fault : Fault} (hline : isBlankText line = false)
    (h : offence? room (line :: rest) 0 = some fault) :
    readRecords area room number (line :: rest) = .error (failure number fault) := by
  rw [offence?_zero hline] at h
  cases room with
  | zero =>
    cases h
    exact readRecords_of_full hline
  | succ room =>
    have hfollows := follows_readRecord area line
    rw [if_neg (Nat.succ_ne_zero room)] at h
    rw [Follows, h] at hfollows
    exact readRecords_of_error hline hfollows

variable (area number) in
/-- A filled line with nothing wrong is a volcano, and there is room for one volcano less. -/
theorem readRecords_of_no_fault (hline : isBlankText line = false)
    (h : offence? room (line :: rest) 0 = none) :
    ∃ room' volcano, room = room' + 1 ∧ (fieldsOf line).Describe area volcano ∧
      readRecords area room number (line :: rest) =
        (readRecords area room' (number + 1) rest).map (volcano :: ·) := by
  rw [offence?_zero hline] at h
  cases room with
  | zero => cases h
  | succ room =>
    have hfollows := follows_readRecord area line
    rw [if_neg (Nat.succ_ne_zero room)] at h
    rw [Follows, h] at hfollows
    obtain ⟨volcano, hread, hdescribe⟩ := hfollows
    exact ⟨room, volcano, rfl, hdescribe, readRecords_of_ok hline hread⟩

end Lines

/-- Reading stops at the first line with something wrong, and says what and where. -/
theorem readRecords_of_offence (area : Float) {room number place : Nat} {fault : Fault}
    {lines : List (List Char)} (h : offence? room lines place = some fault)
    (hfirst : ∀ earlier < place, offence? room lines earlier = none) :
    readRecords area room number lines = .error (failure (number + place) fault) := by
  -- A blank line moves the place by one, a filled one before the place also takes up room.
  induction lines generalizing room number place with
  | nil => cases h
  | cons line rest ih =>
    cases hline : isBlankText line with
    | true =>
      cases place with
      | zero =>
        simp [offence?, faultOf?, hline] at h
      | succ place =>
        rw [offence?_succ_of_blank hline] at h
        rw [readRecords_of_blank hline, ih h fun earlier hearlier => ?_, Nat.add_right_comm,
          Nat.add_assoc]
        rw [← offence?_succ_of_blank hline]
        exact hfirst (earlier + 1) (Nat.succ_lt_succ hearlier)
    | false =>
      cases place with
      | zero => exact readRecords_of_fault hline h
      | succ place =>
        obtain ⟨room, volcano, rfl, -, hread⟩ :=
          readRecords_of_no_fault area number hline (hfirst 0 (Nat.succ_pos place))
        rw [offence?_succ hline] at h
        rw [hread, ih h fun earlier hearlier => ?_, Nat.add_right_comm, Nat.add_assoc]
        · rfl
        · rw [← offence?_succ hline]
          exact hfirst (earlier + 1) (Nat.succ_lt_succ hearlier)

/-- With nothing wrong, every filled line is a volcano. -/
theorem readRecords_of_no_offence (area : Float) {room : Nat} (number : Nat)
    {lines : List (List Char)} (h : ∀ place, offence? room lines place = none) :
    ∃ volcanoes, readRecords area room number lines = .ok volcanoes ∧
      List.Forall₂ (fun line volcano => (fieldsOf line).Describe area volcano) (filled lines)
        volcanoes := by
  induction lines generalizing room number with
  | nil => exact ⟨[], rfl, .nil⟩
  | cons line rest ih =>
    cases hline : isBlankText line with
    | true =>
      rw [readRecords_of_blank hline, filled_cons_of_blank hline]
      refine ih (number + 1) fun place => ?_
      rw [← offence?_succ_of_blank hline]
      exact h (place + 1)
    | false =>
      obtain ⟨room, volcano, rfl, hdescribe, hread⟩ :=
        readRecords_of_no_fault area number hline (h 0)
      have hnone : ∀ place, offence? room rest place = none := by
        intro place
        rw [← offence?_succ hline]
        exact h (place + 1)
      obtain ⟨volcanoes, hrest, hdescribes⟩ := ih (number + 1) hnone
      rw [hread, hrest, filled_cons hline]
      exact ⟨volcano :: volcanoes, rfl, .cons hdescribe hdescribes⟩

/-- A listing without a header is rejected at its first line. Under the header, the first line with
something wrong is reported with its number and its first fault; if there is none, the table has one
volcano for each filled line, in order. -/
theorem read_first_offence (text : String) (area : Float) :
    ((∀ first rest, lines text.toList = first :: rest → ¬ header.toList <+: first) →
      read text area = .error (.volcanoList 1 Fault.missingHeader.reason)) ∧
    ∀ first rest, lines text.toList = first :: rest → header.toList <+: first →
      (∀ place fault, offence? maxRecords rest place = some fault →
        (∀ earlier < place, offence? maxRecords rest earlier = none) →
          read text area = .error (.volcanoList (place + 2) fault.reason)) ∧
      ((∀ place, offence? maxRecords rest place = none) →
        ∃ volcanoes, read text area = .ok ⟨volcanoes⟩ ∧
          List.Forall₂ (fun line volcano => (fieldsOf line).Describe area volcano) (filled rest)
            volcanoes) := by
  refine ⟨fun h => ?_, fun first rest hlines hheader => ?_⟩
  · unfold read
    split
    · rfl
    · next first rest hlines =>
      have hheader : isHeader first = false :=
        Bool.eq_false_iff.2 fun hprefix =>
          h first rest hlines (List.isPrefixOf_iff_prefix.1 hprefix)
      rw [hheader]
      rfl
  · have hread : read text area = (readRecords area maxRecords 2 rest).map VolcanoTable.mk := by
      simp only [read, hlines, isHeader, List.isPrefixOf_iff_prefix.2 hheader, if_true]
    refine ⟨fun place fault h hfirst => ?_, fun h => ?_⟩
    · rw [hread, readRecords_of_offence area h hfirst, Nat.add_comm 2 place]
      rfl
    · obtain ⟨volcanoes, hrecords, hdescribes⟩ := readRecords_of_no_offence area 2 h
      rw [hread, hrecords]
      exact ⟨volcanoes, rfl, hdescribes⟩

/-- The first filled line is in order; the next one has neither a name nor a latitude. -/
theorem read_first_offence_nameless :
    read "Puff Volcano Listing File\n \nSpurr:Alaska:61.30:N:152.25:W:3374\n:Alaska:x:N:1:Q:2" 25 =
      .error (.volcanoList 4 "volcano name is empty") := by
  refine ((read_first_offence _ 25).2 header.toList
    [[' '], "Spurr:Alaska:61.30:N:152.25:W:3374".toList, ":Alaska:x:N:1:Q:2".toList]
    (by decide +kernel) (List.prefix_refl _)).1 2 .nameEmpty (by decide +kernel) ?_
  decide +kernel

end PlumeForm.Listing
