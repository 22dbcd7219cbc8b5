import PlumeForm.Settings.Environment
import PlumeForm.Settings.Place
import PlumeForm.Proofs.Decimal.Characters
import Mathlib.Data.List.TakeWhile

/-!
# Names of settings, as text

A name in small letters stays as it is when it is made small again, and making it small brings in no
point and no bracket. The place of a key without brackets is a path of names, and the key is these
names with points between them (`placeOf_names`). So the name of a variable without points and
brackets can be read off the place that it sets (`names_of_keyOf?`).
-/

namespace PlumeForm

namespace SettingsTree

/-! ## Small letters -/

theorem toLower_of_not_isUpper {c : Char} (h : c.isUpper = false) : c.toLower = c := by
  have hrange : ¬ (c.val ≥ 'A'.val ∧ c.val ≤ 'Z'.val) := of_decide_eq_false h
  unfold Char.toLower
  rw [dif_neg hrange]

theorem isLower_toLower_of_isUpper {c : Char} (h : c.isUpper = true) :
    c.toLower.isLower = true := by
  obtain ⟨hlow, hhigh⟩ := Decimal.toNat_of_isUpper h
  have hrange : c.val ≥ 'A'.val ∧ c.val ≤ 'Z'.val := of_decide_eq_true h
  have hshift : ('a'.val - 'A'.val).toNat = 32 := by decide
  have hcode : (c.val + ('a'.val - 'A'.val)).toNat = c.toNat + 32 := by
    rw [UInt32.toNat_add, hshift, Char.toNat_val]
    omega
  have hrange' : 'a'.val ≤ c.val + ('a'.val - 'A'.val) ∧
      c.val + ('a'.val - 'A'.val) ≤ 'z'.val := by
    rw [UInt32.le_iff_toNat_le, UInt32.le_iff_toNat_le, hcode]
    exact ⟨Nat.add_le_add_right hlow 32, Nat.add_le_add_right hhigh 32⟩
  unfold Char.toLower
  rw [dif_pos hrange]
  exact Bool.and_eq_true_iff.2 ⟨decide_eq_true hrange'.1, decide_eq_true hrange'.2⟩

theorem smallChar_of_isLower {c : Char} (h : c.isLower = true) : smallChar c = c := by
  have hkelvin : c ≠ '\u212A' := by
    rintro rfl
    exact absurd h (by decide)
  have hupper : c.isUpper = false := by
    cases hupper : c.isUpper with
    | false => rfl
    | true =>
      have hlower := Decimal.toNat_of_isLower h
      have hrange := Decimal.toNat_of_isUpper hupper
      omega
  rw [smallChar, if_neg hkelvin, toLower_of_not_isUpper hupper]

/-- A character is made a small letter of ASCII, or it stays. -/
theorem isLower_smallChar_or_eq (c : Char) : (smallChar c).isLower = true ∨ smallChar c = c := by
  unfold smallChar
  by_cases hkelvin : c = '\u212A'
  · rw [if_pos hkelvin]
    exact Or.inl (by decide)
  · rw [if_neg hkelvin]
    cases hupper : c.isUpper with
    | true => exact Or.inl (isLower_toLower_of_isUpper hupper)
    | false => exact Or.inr (toLower_of_not_isUpper hupper)

theorem smallChar_smallChar (c : Char) : smallChar (smallChar c) = smallChar c := by
  rcases isLower_smallChar_or_eq c with h | h
  · exact smallChar_of_isLower h
  · rw [h, h]

@[simp] theorem toList_smallName (name : String) :
    (smallName name).toList = name.toList.map smallChar := String.toList_ofList

theorem smallName_eq_self_iff {name : String} :
    smallName name = name ↔ ∀ c ∈ name.toList, smallChar c = c := by
  rw [← String.toList_inj, toList_smallName]
  constructor
  · intro h
    exact fun c hc => List.map_inj_left.1 (h.trans (List.map_id _).symm) c hc
  · intro h
    exact (List.map_congr_left h).trans (List.map_id _)

@[simp] theorem smallName_smallName (name : String) :
    smallName (smallName name) = smallName name := by
  refine smallName_eq_self_iff.2 fun c hc => ?_
  rw [toList_smallName] at hc
  obtain ⟨d, -, rfl⟩ := List.mem_map.1 hc
  exact smallChar_smallChar d

/-- Making a name small brings in no character that is not a small letter. -/
theorem not_mem_smallName {name : String} {d : Char} (hd : d.isLower = false)
    (h : d ∉ name.toList) : d ∉ (smallName name).toList := by
  rw [toList_smallName]
  intro hmem
  obtain ⟨c, hc, hcd⟩ := List.mem_map.1 hmem
  rcases isLower_smallChar_or_eq c with hlower | heq
  · rw [hcd, hd] at hlower
    cases hlower
  · rw [← hcd, heq] at h
    exact h hc

theorem isNameChar_smallChar {c : Char} (h : isNameChar c = true) :
    isNameChar (smallChar c) = true := by
  rcases isLower_smallChar_or_eq c with hlower | heq
  · have halpha : (smallChar c).isAlphanum = true := by
      change (((smallChar c).isUpper || (smallChar c).isLower) || (smallChar c).isDigit) = true
      rw [hlower, Bool.or_true, Bool.true_or]
    rw [isNameChar, halpha, Bool.true_or, Bool.true_or, Bool.true_or]
  · rw [heq, h]

/-! ## Places of names -/

/-- The steps that go by the names. -/
def named (names : List String) : List Step :=
  names.map .name

theorem named_inj {names names' : List String} : named names = named names' ↔ names = names' :=
  List.map_inj_right fun _ _ h => Step.name.inj h

/-- The names, with a point before each of them. -/
def dotted (names : List String) : List Char :=
  names.flatMap fun name => '.' :: name.toList

theorem readName?_eq_some {cs rest : List Char} {name : String}
    (h : readName? cs = some (name, rest)) : cs = name.toList ++ rest := by
  simp only [readName?, List.span_eq_takeWhile_dropWhile] at h
  split at h
  · cases h
  · cases h
    rw [String.toList_ofList, List.takeWhile_append_dropWhile]

/-- A text of name characters is one name. -/
theorem readName?_of_all {cs : List Char} (hne : cs ≠ [])
    (h : ∀ c ∈ cs, isNameChar c = true) : readName? cs = some (String.ofList cs, []) := by
  have htake : cs.takeWhile isNameChar = cs := List.takeWhile_eq_self_iff.2 h
  have hdrop : cs.dropWhile isNameChar = [] := List.dropWhile_eq_nil_iff.2 h
  simp [readName?, List.span_eq_takeWhile_dropWhile, htake, hdrop, hne]

/-- Without brackets all steps go by names. -/
theorem readSteps?_names {room : Nat} {cs : List Char} {steps : List Step}
    (h : readSteps? room cs = some steps) (hbracket : '[' ∉ cs) :
    ∃ names, steps = named names ∧ cs = dotted names := by
  induction room generalizing cs steps with
  | zero =>
    cases cs with
    | nil =>
      cases h
      exact ⟨[], rfl, rfl⟩
    | cons c cs => cases h
  | succ room ih =>
    unfold readSteps? at h
    split at h
    · cases h
      exact ⟨[], rfl, rfl⟩
    · next heq => cases heq
    · next heq =>
      cases heq
      rename_i cs
      cases hname : readName? cs with
      | none =>
        rw [hname] at h
        cases h
      | some found =>
        obtain ⟨name, rest⟩ := found
        rw [hname] at h
        obtain ⟨more, hmore, rfl⟩ := Option.map_eq_some_iff.1 h
        have hcs := readName?_eq_some hname
        subst hcs
        have hrest : '[' ∉ rest := fun hmem =>
          hbracket (List.mem_cons_of_mem _ (List.mem_append_right _ hmem))
        obtain ⟨names, rfl, rfl⟩ := ih hmore hrest
        exact ⟨name :: names, rfl, rfl⟩
    · exact absurd List.mem_cons_self hbracket
    · cases h

theorem readPlace?_names {text : String} {steps : List Step} (h : readPlace? text = some steps)
    (hbracket : '[' ∉ text.toList) :
    ∃ name names, steps = named (name :: names) ∧ text.toList = name.toList ++ dotted names := by
  unfold readPlace? at h
  cases hname : readName? text.toList with
  | none =>
    rw [hname] at h
    cases h
  | some found =>
    obtain ⟨name, rest⟩ := found
    rw [hname] at h
    obtain ⟨more, hmore, rfl⟩ := Option.map_eq_some_iff.1 h
    have htext := readName?_eq_some hname
    have hrest : '[' ∉ rest := fun hmem =>
      hbracket (htext ▸ List.mem_append_right _ hmem)
    obtain ⟨names, rfl, rfl⟩ := readSteps?_names hmore hrest
    exact ⟨name, names, rfl, htext⟩

/-- The place of a small key without brackets is a path of small names: those that stand between the
points of the key. -/
theorem placeOf_names {key : String} (hsmall : smallName key = key) (hbracket : '[' ∉ key.toList) :
    ∃ name names, placeOf key = named (name :: names) ∧
      key.toList = name.toList ++ dotted names := by
  unfold placeOf
  rw [hsmall]
  cases hplace : readPlace? key with
  | none => exact ⟨key, [], rfl, (List.append_nil _).symm⟩
  | some steps => exact readPlace?_names hplace hbracket

/-- A key of name characters is one name. -/
theorem placeOf_of_all {key : String} (hne : key ≠ "")
    (h : ∀ c ∈ key.toList, isNameChar c = true) : placeOf key = [.name (smallName key)] := by
  have hlist : (smallName key).toList ≠ [] := by
    rw [toList_smallName]
    intro hnil
    exact hne (String.toList_eq_nil_iff.1 (List.map_eq_nil_iff.1 hnil))
  have hall : ∀ c ∈ (smallName key).toList, isNameChar c = true := by
    rw [toList_smallName]
    intro c hc
    obtain ⟨d, hd, rfl⟩ := List.mem_map.1 hc
    exact isNameChar_smallChar (h d hd)
  have hread : readPlace? (smallName key) = some [.name (smallName key)] := by
    rw [readPlace?, readName?_of_all hlist hall, String.ofList_toList]
    rfl
  rw [placeOf, hread]
  rfl

end SettingsTree

/-! ## Variables -/

namespace Environment

open SettingsTree

theorem mem_showPoints {c : Char} {cs : List Char} (h : c ∈ showPoints cs) : c = '.' ∨ c ∈ cs := by
  fun_induction showPoints cs with
  | case1 rest ih =>
    rcases List.mem_cons.1 h with h | h
    · exact Or.inl h
    · rcases ih h with h | h
      · exact Or.inl h
      · exact Or.inr (List.mem_cons_of_mem _ (List.mem_cons_of_mem _ h))
  | case2 d rest _ ih =>
    rcases List.mem_cons.1 h with rfl | h
    · exact Or.inr List.mem_cons_self
    · rcases ih h with h | h
      · exact Or.inl h
      · exact Or.inr (List.mem_cons_of_mem _ h)
  | case3 => cases h

/-- A text with a double underscore for every point. -/
def hidePoints (cs : List Char) : List Char :=
  cs.flatMap fun c => if c = '.' then ['_', '_'] else [c]

theorem hidePoints_showPoints {cs : List Char} (h : '.' ∉ cs) :
    hidePoints (showPoints cs) = cs := by
  fun_induction showPoints cs with
  | case1 rest ih =>
    have hrest : '.' ∉ rest := fun hmem =>
      h (List.mem_cons_of_mem _ (List.mem_cons_of_mem _ hmem))
    rw [hidePoints, List.flatMap_cons, ← hidePoints, ih hrest]
    rfl
  | case2 d rest _ ih =>
    have hd : d ≠ '.' := fun heq => h (heq ▸ List.mem_cons_self)
    have hrest : '.' ∉ rest := fun hmem => h (List.mem_cons_of_mem _ hmem)
    rw [hidePoints, List.flatMap_cons, ← hidePoints, ih hrest, if_neg hd]
    rfl
  | case3 => rfl

theorem keyOf?_eq_some_iff {name key : String} :
    keyOf? name = some key ↔
      ∃ rest, (smallName name).toList = front.toList ++ rest ∧
        key = String.ofList (showPoints rest) := by
  unfold keyOf?
  dsimp only
  constructor
  · intro h
    split at h
    · next hfront =>
      obtain ⟨rest, hrest⟩ := List.isPrefixOf_iff_prefix.1 hfront
      refine ⟨rest, hrest.symm, ?_⟩
      rw [← Option.some.inj h, ← hrest, List.drop_left' (by decide)]
    · cases h
  · rintro ⟨rest, hrest, rfl⟩
    rw [hrest, if_pos (List.isPrefixOf_iff_prefix.2 ⟨rest, rfl⟩), List.drop_left' (by decide)]

/-- Only the small form of its name says what a variable sets. -/
theorem keyOf?_congr {name name' : String} (h : smallName name = smallName name') :
    keyOf? name = keyOf? name' := by
  unfold keyOf?
  rw [h]

theorem smallName_of_keyOf? {name key : String} (h : keyOf? name = some key) :
    smallName key = key := by
  obtain ⟨rest, hrest, rfl⟩ := keyOf?_eq_some_iff.1 h
  refine smallName_eq_self_iff.2 fun c hc => ?_
  rw [String.toList_ofList] at hc
  rcases mem_showPoints hc with rfl | hc
  · decide
  · have hname : c ∈ (smallName name).toList := hrest ▸ List.mem_append_right _ hc
    exact smallName_eq_self_iff.1 (smallName_smallName name) c hname

/-- The name of a variable without points and brackets, from the place that it sets. -/
theorem names_of_keyOf? {name key : String} (h : keyOf? name = some key)
    (hplain : '.' ∉ name.toList ∧ '[' ∉ name.toList) :
    ∃ first names, placeOf key = named (first :: names) ∧
      (∀ n ∈ first :: names, smallName n = n) ∧
      (smallName name).toList = front.toList ++ hidePoints (first.toList ++ dotted names) := by
  have hsmall := smallName_of_keyOf? h
  obtain ⟨rest, hrest, rfl⟩ := keyOf?_eq_some_iff.1 h
  have hoff : ∀ {d : Char}, d.isLower = false → d ∉ name.toList → d ∉ rest :=
    fun hd hmem hin =>
      not_mem_smallName hd hmem (hrest ▸ List.mem_append_right _ hin)
  have hpoint : '.' ∉ rest := hoff (by decide) hplain.1
  have hbracket : '[' ∉ rest := hoff (by decide) hplain.2
  have hkey : '[' ∉ (String.ofList (showPoints rest)).toList := by
    rw [String.toList_ofList]
    intro hmem
    rcases mem_showPoints hmem with hmem | hmem
    · exact absurd hmem (by decide)
    · exact hbracket hmem
  obtain ⟨first, names, hplace, htext⟩ := placeOf_names hsmall hkey
  refine ⟨first, names, hplace, fun n hn => ?_, ?_⟩
  · refine smallName_eq_self_iff.2 fun c hc => smallName_eq_self_iff.1 hsmall c ?_
    rw [htext]
    rcases List.mem_cons.1 hn with rfl | hn
    · exact List.mem_append_left _ hc
    · exact List.mem_append_right _
        (List.mem_flatMap.2 ⟨n, hn, List.mem_cons_of_mem _ hc⟩)
  · rw [hrest, ← htext, String.toList_ofList, hidePoints_showPoints hpoint]

/-! ## The keys of an environment -/

theorem keys_cons_of_none (v : String × String) (h : keyOf? v.1 = none) (env : Environment) :
    keys (v :: env) = env.keys := by
  rw [keys, List.filterMap_cons_none (by rw [h]; rfl)]
  rfl

theorem keys_cons_of_some (v : String × String) {key : String} (h : keyOf? v.1 = some key)
    (env : Environment) : keys (v :: env) = (key, treeOf v.2) :: env.keys := by
  rw [keys, List.filterMap_cons_some (by rw [h]; rfl)]
  rfl

theorem keys_append (env more : Environment) : keys (env ++ more) = env.keys ++ more.keys :=
  List.filterMap_append

end Environment

end PlumeForm
