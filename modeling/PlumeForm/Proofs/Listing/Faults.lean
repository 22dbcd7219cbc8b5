import PlumeForm.Listing

/-!
# Faults of a line

A line of a listing may have several faults. `checks` lists what may be wrong with it, each fault
with a condition of its own, and `Fields.Describe` says which volcano a line stands for. Main
statement: a line is read as the volcano that it describes, and the first fault is reported of a
line that has one (`follows_readRecord`).
-/

namespace PlumeForm.Listing

open Text Decimal

/-! ## What may be wrong with a line -/

/-- The fields of a line, as many as there are, without the white space around them. -/
def cells (line : List Char) : List (List Char) :=
  (line.splitOn ':').map trim

/-- The seven fields that count. -/
structure Fields where
  name : List Char
  location : List Char
  lat : List Char
  latDir : List Char
  lon : List Char
  lonDir : List Char
  elevation : List Char

/-- The seven fields of a line; where the line has fewer, the others are empty. -/
def fieldsOf (line : List Char) : Fields :=
  let cell := fun place => (cells line).getD place []
  ⟨cell 0, cell 1, cell 2, cell 3, cell 4, cell 5, cell 6⟩

/-- The text is a finite number. -/
def isNumber (text : List Char) : Bool :=
  (readFinite? text).isSome

/-- The first character of the text is the letter, in either case. -/
def startsWith (letter : Char) (text : List Char) : Bool :=
  text.head?.any (·.toUpper == letter)

/-- What may be wrong with seven fields, in the order in which it counts: conditions that do not
depend on each other, and the faults that they mean. -/
def Fields.checks (f : Fields) : List (Bool × Fault) :=
  [(maxText < f.name.length, .nameTooLong),
    (maxText < f.location.length, .locationTooLong),
    (f.name = [], .nameEmpty),
    (!isNumber f.lat, .badNumber "latitude" (String.ofList f.lat)),
    (!isNumber f.lon, .badNumber "longitude" (String.ofList f.lon)),
    (!isNumber f.elevation, .badNumber "elevation" (String.ofList f.elevation)),
    (!(startsWith 'N' f.latDir || startsWith 'S' f.latDir),
      .badDirection "latitude" "N or S" (String.ofList f.latDir)),
    (!(startsWith 'E' f.lonDir || startsWith 'W' f.lonDir),
      .badDirection "longitude" "E or W" (String.ofList f.lonDir))]

/-- What may be wrong with a line. -/
def checks (line : List Char) : List (Bool × Fault) :=
  ((cells line).length < 7, .tooFewFields (cells line).length) :: (fieldsOf line).checks

/-- The first fault whose condition holds. -/
def firstFault? (checks : List (Bool × Fault)) : Option Fault :=
  (checks.find? (·.1)).map (·.2)

/-- The volcano is the one that seven fields describe, in a source area. -/
structure Fields.Describe (f : Fields) (area : Float) (volcano : Volcano) : Prop where
  name : volcano.name = String.ofList f.name
  location :
    volcano.location = if f.location = [] then none else some (String.ofList f.location)
  lat : ∃ x, readFinite? f.lat = some x ∧ volcano.lat = if startsWith 'S' f.latDir then -x else x
  lon : ∃ x, readFinite? f.lon = some x ∧ volcano.lon = if startsWith 'W' f.lonDir then -x else x
  plumeMin : readFinite? f.elevation = some volcano.plumeMin
  area : volcano.area = area

/-! ## Reading a line -/

/-- The result goes with the checks: it is the first fault, and without one a volcano that has the
property. -/
def Follows (checks : List (Bool × Fault)) (P : Volcano → Prop) (result : Except Fault Volcano) :
    Prop :=
  match firstFault? checks with
  | some fault => result = .error fault
  | none => ∃ volcano, result = .ok volcano ∧ P volcano

theorem follows_cons {condition : Bool} {fault : Fault} {checks : List (Bool × Fault)}
    {P : Volcano → Prop} {result : Except Fault Volcano}
    (hbad : condition = true → result = .error fault)
    (hgood : condition = false → Follows checks P result) :
    Follows ((condition, fault) :: checks) P result := by
  cases condition with
  | true => exact hbad rfl
  | false => exact hgood rfl

/-- A step that fails under the condition comes before the other checks. -/
theorem follows_bind {α : Type} {condition : Bool} {fault : Fault} {checks : List (Bool × Fault)}
    {P : Volcano → Prop} {step : Except Fault α} {next : α → Except Fault Volcano}
    (hbad : condition = true → step = .error fault)
    (hgood : condition = false → ∃ a, step = .ok a ∧ Follows checks P (next a)) :
    Follows ((condition, fault) :: checks) P (step >>= next) := by
  refine follows_cons (fun h => ?_) fun h => ?_
  · rw [hbad h]
    rfl
  · obtain ⟨a, ha, hnext⟩ := hgood h
    rw [ha]
    exact hnext

theorem readNumber_of_isNumber (what : String) {text : List Char} (h : isNumber text = true) :
    ∃ x, readNumber what text = .ok x ∧ readFinite? text = some x := by
  obtain ⟨x, hx⟩ := Option.isSome_iff_exists.1 h
  refine ⟨x, ?_, hx⟩
  rw [readNumber, hx]

theorem readNumber_of_not_isNumber (what : String) {text : List Char}
    (h : isNumber text = false) :
    readNumber what text = .error (.badNumber what (String.ofList text)) := by
  rw [readNumber, Option.not_isSome_iff_eq_none.1 (Bool.eq_false_iff.1 h)]

/-- A direction is read from its first character. -/
theorem readDirection?_eq {positive negative : Char} (hne : positive ≠ negative)
    (text : List Char) :
    readDirection? positive negative text =
      if startsWith positive text || startsWith negative text then
        some (startsWith negative text)
      else none := by
  cases text with
  | nil => rfl
  | cons c cs =>
    by_cases hpositive : c.toUpper = positive
    · simp [readDirection?, startsWith, hpositive, hne]
    · by_cases hnegative : c.toUpper = negative
      · simp [readDirection?, startsWith, hnegative, hne.symm]
      · simp [readDirection?, startsWith, hpositive, hnegative]

theorem directed_of_startsWith (what letters : String) {positive negative : Char}
    (hne : positive ≠ negative) {text : List Char} (x : Float)
    (h : (startsWith positive text || startsWith negative text) = true) :
    directed what letters positive negative text x =
      .ok (if startsWith negative text then -x else x) := by
  rw [directed, readDirection?_eq hne, if_pos h]
  cases startsWith negative text <;> rfl

theorem directed_of_not_startsWith (what letters : String) {positive negative : Char}
    (hne : positive ≠ negative) {text : List Char} (x : Float)
    (h : (startsWith positive text || startsWith negative text) = false) :
    directed what letters positive negative text x =
      .error (.badDirection what letters (String.ofList text)) := by
  rw [directed, readDirection?_eq hne, if_neg (Bool.eq_false_iff.1 h)]

/-- A number is read, or the check that it is one fails. -/
theorem follows_readNumber {what : String} {text : List Char} {checks : List (Bool × Fault)}
    {P : Volcano → Prop} {next : Float → Except Fault Volcano}
    (h : ∀ x, readFinite? text = some x → Follows checks P (next x)) :
    Follows ((!isNumber text, .badNumber what (String.ofList text)) :: checks) P
      (readNumber what text >>= next) := by
  refine follows_bind (fun hbad => ?_) fun hgood => ?_
  · exact readNumber_of_not_isNumber what (Bool.not_eq_true' _ ▸ hbad)
  · obtain ⟨x, hread, hx⟩ := readNumber_of_isNumber what (Bool.not_eq_false' _ ▸ hgood)
    exact ⟨x, hread, h x hx⟩

/-- A number gets the sign of its direction, or the check of the direction fails. -/
theorem follows_directed {what letters : String} {positive negative : Char}
    (hne : positive ≠ negative) {text : List Char} {x : Float} {checks : List (Bool × Fault)}
    {P : Volcano → Prop} {next : Float → Except Fault Volcano}
    (h : Follows checks P (next (if startsWith negative text then -x else x))) :
    Follows
      ((!(startsWith positive text || startsWith negative text),
        .badDirection what letters (String.ofList text)) :: checks) P
      (directed what letters positive negative text x >>= next) := by
  refine follows_bind (fun hbad => ?_) fun hgood => ?_
  · exact directed_of_not_startsWith what letters hne x (Bool.not_eq_true' _ ▸ hbad)
  · exact ⟨_, directed_of_startsWith what letters hne x (Bool.not_eq_false' _ ▸ hgood), h⟩

/-- Before the other checks, the result is a failure if the condition holds. -/
theorem follows_guard {condition : Prop} [Decidable condition] {fault : Fault}
    {checks : List (Bool × Fault)} {P : Volcano → Prop} {bad good : Except Fault Volcano}
    (hbad : bad = .error fault) (hgood : ¬ condition → Follows checks P good) :
    Follows ((condition, fault) :: checks) P (if condition then bad else good) := by
  refine follows_cons (fun h => ?_) fun h => ?_
  · rw [if_pos (of_decide_eq_true h), hbad]
  · rw [if_neg (of_decide_eq_false h)]
    exact hgood (of_decide_eq_false h)

theorem follows_readFields (area : Float) (f : Fields) :
    Follows f.checks (f.Describe area)
      (readFields area f.name f.location f.lat f.latDir f.lon f.lonDir f.elevation) := by
  unfold readFields
  refine follows_guard rfl fun _ => ?_
  refine follows_guard rfl fun _ => ?_
  refine follows_guard rfl fun _ => ?_
  refine follows_readNumber fun lat hlat => ?_
  refine follows_readNumber fun lon hlon => ?_
  refine follows_readNumber fun elevation helevation => ?_
  refine follows_directed (by decide) ?_
  refine follows_directed (by decide) ?_
  exact ⟨_, rfl, rfl, rfl, ⟨lat, hlat, rfl⟩, ⟨lon, hlon, rfl⟩, helevation, rfl⟩

/-- Seven cells or more are seven cells and others. -/
theorem exists_seven {α : Type} {l : List α} (h : 7 ≤ l.length) :
    ∃ x₀ x₁ x₂ x₃ x₄ x₅ x₆ more, l = x₀ :: x₁ :: x₂ :: x₃ :: x₄ :: x₅ :: x₆ :: more := by
  match l, h with
  | x₀ :: x₁ :: x₂ :: x₃ :: x₄ :: x₅ :: x₆ :: more, _ =>
    exact ⟨x₀, x₁, x₂, x₃, x₄, x₅, x₆, more, rfl⟩

/-- A line is read as the volcano that it describes unless it has a fault, and then its first fault
is reported. -/
theorem follows_readRecord (area : Float) (line : List Char) :
    Follows (checks line) ((fieldsOf line).Describe area) (readRecord area line) := by
  unfold readRecord
  split
  · next name location lat latDir lon lonDir elevation more hcells =>
    have hcells : cells line = name :: location :: lat :: latDir :: lon :: lonDir :: elevation ::
      more := hcells
    have hfields : fieldsOf line = ⟨name, location, lat, latDir, lon, lonDir, elevation⟩ := by
      simp only [fieldsOf, hcells]
      rfl
    rw [checks, hfields, hcells]
    refine follows_cons (fun h => ?_) fun _ => ?_
    · have hlength := of_decide_eq_true h
      simp only [List.length_cons] at hlength
      omega
    · exact follows_readFields area ⟨name, location, lat, latDir, lon, lonDir, elevation⟩
  · next hfew =>
    refine follows_cons (fun _ => rfl) fun h => ?_
    obtain ⟨name, location, lat, latDir, lon, lonDir, elevation, more, hcells⟩ :=
      exists_seven (Nat.not_lt.1 (of_decide_eq_false h))
    exact (hfew name location lat latDir lon lonDir elevation more hcells).elim

end PlumeForm.Listing
