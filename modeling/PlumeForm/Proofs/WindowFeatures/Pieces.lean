import PlumeForm.Proofs.Text.Spans
import PlumeForm.WindowFeatures
import Mathlib.Data.List.Forall2

/-!
# The pieces of a feature text

A feature text is cut at its commas. A piece that is not just white space has a key and a value
(`Reads`), and the value means a flag (`MeansFlag`) or a size (`MeansSize`), or neither. Texts that
are put next to each other with a comma between them keep their pieces (`pairs_intercalate`).
-/

namespace PlumeForm.WindowFeatures

open Text

/-! ## Keys and values -/

/-- The key and the value of an item: what stands before and behind its first equals sign, or the
whole item and `yes`. -/
inductive Splits : List Char → List Char → List Char → Prop
  | assigned {key value : List Char} (h : '=' ∉ key) : Splits (key ++ '=' :: value) key value
  | bare {key : List Char} (h : '=' ∉ key) : Splits key key "yes".toList

theorem Splits.keyValue_eq {item key value : List Char} (h : Splits item key value) :
    keyValue item = (key, value) := by
  cases h with
  | assigned hkey => rw [keyValue, span_append_cons hkey]
  | bare hkey => rw [keyValue, span_of_not_mem hkey]

theorem splits_keyValue (item : List Char) : Splits item (keyValue item).1 (keyValue item).2 := by
  by_cases h : '=' ∈ item
  · obtain ⟨key, value, rfl, hkey⟩ := List.eq_append_cons_of_mem h
    have hsplits : Splits (key ++ '=' :: value) key value := .assigned hkey
    rw [hsplits.keyValue_eq]
    exact hsplits
  · have hsplits : Splits item item "yes".toList := .bare h
    rw [hsplits.keyValue_eq]
    exact hsplits

/-- What a piece says, white space around it, its key and its value aside; the case of the letters
of the key does not count. -/
def Reads (item : List Char) (piece : String × String) : Prop :=
  ∃ key value, Splits item key value ∧
    piece = (String.ofList (lowerAscii (trim key)), String.ofList (trim value))

/-- The parts of a text between its commas, but for those of white space only. -/
def cut (text : List Char) : List (List Char) :=
  ((text.splitOn ',').map trim).filter (· ≠ [])

theorem reads_pairs (text : List Char) : List.Forall₂ Reads (cut text) (pairs text) := by
  refine List.forall₂_map_right_iff.2 (List.forall₂_same.2 fun item _ => ?_)
  exact ⟨_, _, splits_keyValue item, rfl⟩

theorem pairs_append (front back : List Char) :
    pairs (front ++ ',' :: back) = pairs front ++ pairs back := by
  simp only [pairs, List.splitOn_append_cons_self, List.map_append, List.filter_append]

/-- Texts with commas between them have the pieces of each of them, one text after the other. -/
theorem pairs_intercalate (texts : List (List Char)) :
    pairs ([','].intercalate texts) = texts.flatMap pairs := by
  induction texts with
  | nil => rfl
  | cons text texts ih =>
    cases texts with
    | nil => simp
    | cons next texts =>
      rw [List.intercalate_cons_cons, List.append_assoc, List.singleton_append, pairs_append, ih]
      exact List.flatMap_cons.symm

/-! ## Known keys -/

/-- The keys whose values are flags. -/
def flagKeys : List String := ["toolbar", "scrollbars"]

/-- The keys whose values are sizes. -/
def sizeKeys : List String := ["width", "height"]

/-- The keys that mean something. -/
def keys : List String := flagKeys ++ sizeKeys

/-! ## What values mean -/

/-- The words for a flag that is on or off. -/
def flagWords : Bool → List String
  | true => ["yes", "1", "true"]
  | false => ["no", "0", "false"]

/-- The value is a word for the flag, in capital or small letters. -/
def MeansFlag (value : String) (b : Bool) : Prop :=
  ∃ word ∈ flagWords b, equalCaseless value.toList word.toList = true

/-- The value is the decimal number, maybe with a plus sign before it. Sizes are below 2 to the
32nd. -/
def MeansSize (value : String) (n : UInt32) : Prop :=
  ∃ digits, digits ≠ [] ∧ AllDigits digits ∧ Text.value digits = n.toNat ∧
    (value.toList = digits ∨ value.toList = '+' :: digits)

theorem meansFlag_iff {value : String} {b : Bool} :
    MeansFlag value b ↔ String.ofList (lowerAscii value.toList) ∈ flagWords b := by
  have hsmall : ∀ word ∈ flagWords b, lowerAscii word.toList = word.toList := by
    cases b <;> decide
  constructor
  · rintro ⟨word, hword, hsame⟩
    rw [equalCaseless, beq_iff_eq, hsmall word hword] at hsame
    rw [hsame, String.ofList_toList]
    exact hword
  · intro hword
    refine ⟨_, hword, ?_⟩
    rw [equalCaseless, beq_iff_eq, hsmall _ hword, String.toList_ofList]

theorem readFlag?_eq_some_iff {value : String} {b : Bool} :
    readFlag? value = some b ↔ MeansFlag value b := by
  rw [meansFlag_iff, readFlag?]
  generalize String.ofList (lowerAscii value.toList) = word
  constructor
  · intro h
    split at h
    · next hyes =>
      cases h
      simpa [flagWords] using hyes
    · split at h
      · next hno =>
        cases h
        simpa [flagWords] using hno
      · cases h
  · intro h
    cases b with
    | true => exact if_pos (by simpa [flagWords] using h)
    | false =>
      simp only [flagWords, List.mem_cons, List.not_mem_nil, or_false] at h
      rcases h with rfl | rfl | rfl <;> rfl

theorem readSize?_eq_some_iff {value : String} {n : UInt32} :
    readSize? value = some n ↔ MeansSize value n := by
  unfold readSize? MeansSize
  constructor
  · intro h
    split at h
    · next m hread =>
      split at h
      · next hlt =>
        cases h
        obtain ⟨digits, htext, hne, hdigits, rfl⟩ := readUnsigned?_eq_some_iff.1 hread
        exact ⟨digits, hne, hdigits, (UInt32.toNat_ofNat_of_lt hlt).symm, htext⟩
      · cases h
    · cases h
  · rintro ⟨digits, hne, hdigits, hvalue, htext⟩
    have hread := readUnsigned?_eq_some_iff.2 ⟨digits, htext, hne, hdigits, hvalue⟩
    have hlt : n.toNat < 2 ^ 32 := n.toNat_lt
    rw [hread]
    simp [hlt]

end PlumeForm.WindowFeatures
