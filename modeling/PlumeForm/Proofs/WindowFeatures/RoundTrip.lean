import PlumeForm.Proofs.WindowFeatures.Pieces

/-!
# Feature texts that are written

A feature text is written with one piece for each flag and for each size that is given
(`pairs_render`), so reading it sets every feature to what it was. Main statement: a feature text is
read back, whether it stands for given features or for what another text has asked for
(`render_round_trip`).
-/

namespace PlumeForm.WindowFeatures

open Text

/-! ## The pieces that are written -/

/-- A character that may stand in a written piece: no white space and no comma. -/
def IsPlain (c : Char) : Prop := isBlank c = false ∧ c ≠ ','

instance (c : Char) : Decidable (IsPlain c) :=
  inferInstanceAs (Decidable (_ ∧ _))

theorem isPlain_of_isDigit {c : Char} (h : c.isDigit = true) : IsPlain c := by
  refine ⟨isBlank_of_isDigit h, ?_⟩
  rintro rfl
  exact absurd h (by decide)

theorem trim_of_plain {cs : List Char} (h : ∀ c ∈ cs, IsPlain c) : trim cs = cs := by
  refine trim_eq_self (fun c r hcs => ?_) fun c hc => (h c (List.mem_of_getLast? hc)).1
  subst hcs
  exact (h c List.mem_cons_self).1

/-- A plain item is a piece of its own. -/
theorem pairs_item {key value : List Char} (hkey : '=' ∉ key) (hkeyPlain : ∀ c ∈ key, IsPlain c)
    (hvaluePlain : ∀ c ∈ value, IsPlain c) :
    pairs (key ++ '=' :: value) =
      [(String.ofList (lowerAscii key), String.ofList value)] := by
  have hplain : ∀ c ∈ key ++ '=' :: value, IsPlain c :=
    List.forall_mem_append.2 ⟨hkeyPlain, List.forall_mem_cons.2 ⟨by decide, hvaluePlain⟩⟩
  have hsplit : (key ++ '=' :: value).splitOn ',' = [key ++ '=' :: value] := by
    have hcomma : ∀ item ∈ [key ++ '=' :: value], ',' ∉ item :=
      List.forall_mem_singleton.2 fun h => (hplain _ h).2 rfl
    have hone := List.splitOn_intercalate ',' hcomma (List.cons_ne_nil _ _)
    rwa [List.intercalate_singleton] at hone
  have hsplits : Splits (key ++ '=' :: value) key value := .assigned hkey
  simp [pairs, hsplit, trim_of_plain hplain, hsplits.keyValue_eq, trim_of_plain hkeyPlain,
    trim_of_plain hvaluePlain]

/-- The word for a flag. -/
def flagWord (b : Bool) : String := if b then "yes" else "no"

/-- The digits of a size. -/
def sizeWord (n : UInt32) : String := String.ofList (Nat.toDigits 10 n.toNat)

/-- The piece for a size, if it is given. -/
def sizePiece (key : String) (size : Option UInt32) : List (String × String) :=
  size.toList.map fun n => (key, sizeWord n)

/-- The pieces that are written for features. -/
def written (f : WindowFeatures) : List (String × String) :=
  [("toolbar", flagWord f.toolbar)] ++ sizePiece "width" f.width ++ sizePiece "height" f.height ++
    [("scrollbars", flagWord f.scrollbars)]

/-- An item with a known key is a piece with that key. -/
theorem pairs_keyItem {key : String} (h : key ∈ keys) {value : List Char}
    (hvalue : ∀ c ∈ value, IsPlain c) :
    pairs (key.toList ++ '=' :: value) = [(key, String.ofList value)] := by
  have hall : (key.toList.all fun c => decide (c ≠ '=' ∧ IsPlain c)) = true := by
    revert h key
    decide
  have hsmall : String.ofList (lowerAscii key.toList) = key := by
    revert h key
    decide
  simp only [List.all_eq_true, decide_eq_true_eq] at hall
  have hequals : '=' ∉ key.toList := fun hc => (hall _ hc).1 rfl
  rw [pairs_item hequals (fun c hc => (hall c hc).2) hvalue, hsmall]

theorem pairs_flagItem {key : String} (h : key ∈ keys) (b : Bool) :
    pairs (key.toList ++ '=' :: flagText b) = [(key, flagWord b)] := by
  have hplain : ((flagText b).all fun c => decide (IsPlain c)) = true := by cases b <;> decide
  simp only [List.all_eq_true, decide_eq_true_eq] at hplain
  rw [pairs_keyItem h hplain]
  cases b <;> rfl

theorem flatMap_pairs_sizeItem {key : String} (h : key ∈ keys) (size : Option UInt32) :
    (sizeItem key size).flatMap pairs = sizePiece key size := by
  cases size with
  | none => rfl
  | some n =>
    have hdigits : ∀ c ∈ Nat.toDigits 10 n.toNat, IsPlain c := fun c hc =>
      isPlain_of_isDigit (Nat.isDigit_of_mem_toDigits (by decide) (by decide) hc)
    rw [sizeItem, List.flatMap_singleton, pairs_keyItem h hdigits]
    rfl

theorem pairs_render (f : WindowFeatures) : pairs f.render.toList = written f := by
  have hkeys : "toolbar" ∈ keys ∧ "scrollbars" ∈ keys ∧ "width" ∈ keys ∧ "height" ∈ keys := by
    decide
  obtain ⟨htoolbar, hscrollbars, hwidth, hheight⟩ := hkeys
  have htoolbarItem : pairs ("toolbar=".toList ++ flagText f.toolbar) = _ :=
    pairs_flagItem htoolbar f.toolbar
  have hscrollbarsItem : pairs ("scrollbars=".toList ++ flagText f.scrollbars) = _ :=
    pairs_flagItem hscrollbars f.scrollbars
  rw [render, String.toList_ofList, pairs_intercalate, items]
  simp only [List.flatMap_append, List.flatMap_singleton, htoolbarItem, hscrollbarsItem,
    flatMap_pairs_sizeItem hwidth, flatMap_pairs_sizeItem hheight]
  rfl

/-! ## Reading them back -/

theorem readFlag_flagWord (key : String) (b : Bool) : readFlag key (flagWord b) = .ok b := by
  cases b <;> rfl

theorem readSize_sizeWord (key : String) (n : UInt32) : readSize key (sizeWord n) = .ok n := by
  have hread : readUnsigned? (sizeWord n).toList = some n.toNat := by
    rw [sizeWord, String.toList_ofList, readUnsigned?_toDigits]
  have hlt : n.toNat < 2 ^ 32 := n.toNat_lt
  simp [readSize, readSize?, hread, hlt]

theorem read_render (f : WindowFeatures) : read f.render = .ok f := by
  rw [read, pairs_render]
  obtain ⟨toolbar, width, height, scrollbars⟩ := f
  cases width <;> cases height <;>
    simp [written, sizePiece, apply, readFlag_flagWord, readSize_sizeWord, Except.map, bare, bind,
      Except.bind, pure, Except.pure]

/-- The text of features is read back, so different features have different texts. What a text asks
for is read again from the text that is written for it. -/
theorem render_round_trip :
    (∀ f : WindowFeatures, read f.render = .ok f) ∧
      (∀ f g : WindowFeatures, f.render = g.render → f = g) ∧
        ∀ (text : String) (f : WindowFeatures), read text = .ok f → read f.render = read text := by
  refine ⟨read_render, fun f g h => ?_, fun text f h => ?_⟩
  · have hread := read_render f
    rw [h, read_render g] at hread
    exact (Except.ok.inj hread).symm
  · rw [read_render f, h]

end PlumeForm.WindowFeatures
