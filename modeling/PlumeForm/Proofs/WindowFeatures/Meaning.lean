import PlumeForm.Proofs.Page.Missing
import PlumeForm.Proofs.WindowFeatures.Pieces

/-!
# What a feature text means

The pieces of a feature text are taken one by one. A piece whose value its key does not allow ends
the reading, every other one sets the feature of its key (`apply_outcome`, then `foldlM_outcome`).
So a text is read exactly if all of its pieces are sound, every feature is what the last piece with
its key says, and pieces with other keys do not matter (`read_meaning`).
-/

namespace PlumeForm.WindowFeatures

/-! ## Sound pieces -/

/-- The value of the piece is one that its key allows. -/
def IsSound (piece : String × String) : Prop :=
  (piece.1 ∈ flagKeys → ∃ b, MeansFlag piece.2 b) ∧
    (piece.1 ∈ sizeKeys → ∃ n, MeansSize piece.2 n)

/-- The fault in a piece that is not sound. -/
def faultOf (piece : String × String) : FeatureError :=
  if piece.1 ∈ flagKeys then .flag piece.1 piece.2 else .size piece.1 piece.2

section Sound

variable {key value : String}

theorem isSound_flag_iff (h : key ∈ flagKeys) : IsSound (key, value) ↔ ∃ b, MeansFlag value b := by
  have hsize : key ∉ sizeKeys := by
    revert h key
    decide
  simp [IsSound, h, hsize]

theorem isSound_size_iff (h : key ∈ sizeKeys) : IsSound (key, value) ↔ ∃ n, MeansSize value n := by
  have hflag : key ∉ flagKeys := by
    revert h key
    decide
  simp [IsSound, h, hflag]

theorem faultOf_flag (h : key ∈ flagKeys) : faultOf (key, value) = .flag key value :=
  if_pos h

theorem faultOf_size (h : key ∈ sizeKeys) : faultOf (key, value) = .size key value := by
  have hflag : key ∉ flagKeys := by
    revert h key
    decide
  exact if_neg hflag

end Sound

theorem isSound_of_not_mem {piece : String × String} (h : piece.1 ∉ keys) : IsSound piece := by
  rw [keys, List.mem_append, not_or] at h
  exact ⟨fun hflag => absurd hflag h.1, fun hsize => absurd hsize h.2⟩

/-! ## The last value of a key -/

/-- The values of the pieces with a key, in order. -/
def valuesOf (key : String) (pieces : List (String × String)) : List String :=
  (pieces.filter (·.1 = key)).map (·.2)

theorem valuesOf_append (key : String) (front back : List (String × String)) :
    valuesOf key (front ++ back) = valuesOf key front ++ valuesOf key back := by
  simp [valuesOf]

theorem mem_valuesOf_iff {key value : String} {pieces : List (String × String)} :
    value ∈ valuesOf key pieces ↔ (key, value) ∈ pieces := by
  simp [valuesOf]

/-- A feature is what the last of the values means; without values it is as it was. -/
def Settles {α : Type} (Means : String → α → Prop) (start : α) (values : List String)
    (x : α) : Prop :=
  match values.getLast? with
  | some value => Means value x
  | none => x = start

section Settles

variable {α : Type} {Means : String → α → Prop} {x y z : α} {front back : List String}

theorem Settles.append (hfront : Settles Means x front y) (hback : Settles Means y back z) :
    Settles Means x (front ++ back) z := by
  unfold Settles at *
  rw [List.getLast?_append]
  cases hlast : back.getLast? with
  | some value =>
    rw [hlast] at hback
    exact hback
  | none =>
    rw [hlast] at hback
    cases hback
    exact hfront

theorem settles_of_key {value : String} (key : String) (h : Means value y) :
    Settles Means x (valuesOf key [(key, value)]) y := by
  simpa [Settles, valuesOf] using h

theorem settles_of_ne {key other value : String} (h : other ≠ key) :
    Settles Means x (valuesOf key [(other, value)]) x := by
  simp [Settles, valuesOf, h]

theorem Settles.unique (hmeans : Relator.RightUnique Means)
    (hy : Settles Means x front y) (hz : Settles Means x front z) : y = z := by
  unfold Settles at hy hz
  cases hlast : front.getLast? with
  | some value =>
    rw [hlast] at hy hz
    exact hmeans hy hz
  | none =>
    rw [hlast] at hy hz
    exact hy.trans hz.symm

end Settles

theorem rightUnique_meansFlag : Relator.RightUnique MeansFlag := by
  intro value b c hb hc
  exact Option.some.inj ((readFlag?_eq_some_iff.2 hb).symm.trans (readFlag?_eq_some_iff.2 hc))

/-- The value is a size, which is given. -/
def GivesSize (value : String) (size : Option UInt32) : Prop :=
  ∃ n, size = some n ∧ MeansSize value n

theorem rightUnique_givesSize : Relator.RightUnique GivesSize := by
  rintro value _ _ ⟨m, rfl, hm⟩ ⟨n, rfl, hn⟩
  exact (readSize?_eq_some_iff.2 hm).symm.trans (readSize?_eq_some_iff.2 hn)

/-- The features that pieces lead to: each one as the last piece with its key says, and the others
as they were. -/
structure Follows (start : WindowFeatures) (pieces : List (String × String))
    (f : WindowFeatures) : Prop where
  toolbar : Settles MeansFlag start.toolbar (valuesOf "toolbar" pieces) f.toolbar
  width : Settles GivesSize start.width (valuesOf "width" pieces) f.width
  height : Settles GivesSize start.height (valuesOf "height" pieces) f.height
  scrollbars : Settles MeansFlag start.scrollbars (valuesOf "scrollbars" pieces) f.scrollbars

section Follows

variable {start f g : WindowFeatures} {front back pieces : List (String × String)}

theorem Follows.refl (f : WindowFeatures) : Follows f [] f :=
  ⟨rfl, rfl, rfl, rfl⟩

theorem Follows.append (hfront : Follows start front f) (hback : Follows f back g) :
    Follows start (front ++ back) g where
  toolbar := valuesOf_append _ _ _ ▸ hfront.toolbar.append hback.toolbar
  width := valuesOf_append _ _ _ ▸ hfront.width.append hback.width
  height := valuesOf_append _ _ _ ▸ hfront.height.append hback.height
  scrollbars := valuesOf_append _ _ _ ▸ hfront.scrollbars.append hback.scrollbars

theorem Follows.unique (hf : Follows start pieces f) (hg : Follows start pieces g) : f = g := by
  have htoolbar : f.toolbar = g.toolbar :=
    Settles.unique rightUnique_meansFlag hf.toolbar hg.toolbar
  have hwidth : f.width = g.width :=
    Settles.unique rightUnique_givesSize hf.width hg.width
  have hheight : f.height = g.height :=
    Settles.unique rightUnique_givesSize hf.height hg.height
  have hscrollbars : f.scrollbars = g.scrollbars :=
    Settles.unique rightUnique_meansFlag hf.scrollbars hg.scrollbars
  obtain ⟨toolbar, width, height, scrollbars⟩ := f
  rw [WindowFeatures.mk.injEq]
  exact ⟨htoolbar, hwidth, hheight, hscrollbars⟩

theorem Follows.congr (h : Follows start front f)
    (hvalues : ∀ key ∈ keys, valuesOf key back = valuesOf key front) : Follows start back f where
  toolbar := hvalues "toolbar" (by decide) ▸ h.toolbar
  width := hvalues "width" (by decide) ▸ h.width
  height := hvalues "height" (by decide) ▸ h.height
  scrollbars := hvalues "scrollbars" (by decide) ▸ h.scrollbars

end Follows

/-! ## One piece -/

section Step

variable {key value : String} {f : WindowFeatures} {piece : String × String}

/-- A flag is read from the values that mean one, and the others are at fault. -/
theorem readFlag_outcome (h : key ∈ flagKeys) (value : String) :
    (∃ b, readFlag key value = .ok b ∧ MeansFlag value b ∧ IsSound (key, value)) ∨
      readFlag key value = .error (faultOf (key, value)) ∧ ¬ IsSound (key, value) := by
  rw [isSound_flag_iff h, faultOf_flag h, readFlag]
  cases hread : readFlag? value with
  | some b => exact .inl ⟨b, rfl, readFlag?_eq_some_iff.1 hread, b, readFlag?_eq_some_iff.1 hread⟩
  | none =>
    refine .inr ⟨rfl, ?_⟩
    rintro ⟨b, hb⟩
    cases hread.symm.trans (readFlag?_eq_some_iff.2 hb)

theorem readSize_outcome (h : key ∈ sizeKeys) (value : String) :
    (∃ n, readSize key value = .ok n ∧ GivesSize value (some n) ∧ IsSound (key, value)) ∨
      readSize key value = .error (faultOf (key, value)) ∧ ¬ IsSound (key, value) := by
  rw [isSound_size_iff h, faultOf_size h, readSize]
  cases hread : readSize? value with
  | some n =>
    have hn := readSize?_eq_some_iff.1 hread
    exact .inl ⟨n, rfl, ⟨n, rfl, hn⟩, n, hn⟩
  | none =>
    refine .inr ⟨rfl, ?_⟩
    rintro ⟨n, hn⟩
    cases hread.symm.trans (readSize?_eq_some_iff.2 hn)

theorem apply_of_not_mem (f : WindowFeatures) (h : piece.1 ∉ keys) : apply f piece = .ok f := by
  obtain ⟨key, value⟩ := piece
  simp only [keys, flagKeys, sizeKeys, List.cons_append, List.nil_append, List.mem_cons,
    List.not_mem_nil, or_false, not_or] at h
  simp [apply, h]

/-- What is said of a value that is read holds of the piece if what is read is then followed. -/
theorem apply_outcome_of_read {α : Type} {result : Except FeatureError α}
    {put : α → WindowFeatures} {Means : α → Prop} (happly : apply f piece = result.map put)
    (hread : (∃ x, result = .ok x ∧ Means x ∧ IsSound piece) ∨
      result = .error (faultOf piece) ∧ ¬ IsSound piece)
    (hput : ∀ x, Means x → Follows f [piece] (put x)) :
    (∃ g, apply f piece = .ok g ∧ IsSound piece ∧ Follows f [piece] g) ∨
      apply f piece = .error (faultOf piece) ∧ ¬ IsSound piece := by
  rw [happly]
  rcases hread with ⟨x, rfl, hx, hsound⟩ | ⟨rfl, hbad⟩
  · exact .inl ⟨put x, rfl, hsound, hput x hx⟩
  · exact .inr ⟨rfl, hbad⟩

/-- A sound piece sets the feature of its key, and every other one is at fault. -/
theorem apply_outcome (f : WindowFeatures) (piece : String × String) :
    (∃ g, apply f piece = .ok g ∧ IsSound piece ∧ Follows f [piece] g) ∨
      apply f piece = .error (faultOf piece) ∧ ¬ IsSound piece := by
  obtain ⟨key, value⟩ := piece
  by_cases hkey : key ∈ keys
  · simp only [keys, flagKeys, sizeKeys, List.cons_append, List.nil_append, List.mem_cons,
      List.not_mem_nil, or_false] at hkey
    rcases hkey with rfl | rfl | rfl | rfl
    · refine apply_outcome_of_read rfl (readFlag_outcome (by decide) value) fun b hb => ?_
      exact ⟨settles_of_key _ hb, settles_of_ne (by decide), settles_of_ne (by decide),
        settles_of_ne (by decide)⟩
    · refine apply_outcome_of_read rfl (readFlag_outcome (by decide) value) fun b hb => ?_
      exact ⟨settles_of_ne (by decide), settles_of_ne (by decide), settles_of_ne (by decide),
        settles_of_key _ hb⟩
    · refine apply_outcome_of_read rfl (readSize_outcome (by decide) value) fun n hn => ?_
      exact ⟨settles_of_ne (by decide), settles_of_key _ hn, settles_of_ne (by decide),
        settles_of_ne (by decide)⟩
    · refine apply_outcome_of_read rfl (readSize_outcome (by decide) value) fun n hn => ?_
      exact ⟨settles_of_ne (by decide), settles_of_ne (by decide), settles_of_key _ hn,
        settles_of_ne (by decide)⟩
  · have hne : ∀ known ∈ keys, key ≠ known := fun known hknown heq => hkey (heq ▸ hknown)
    exact .inl ⟨f, apply_of_not_mem f hkey, isSound_of_not_mem hkey,
      settles_of_ne (hne _ (by decide)), settles_of_ne (hne _ (by decide)),
      settles_of_ne (hne _ (by decide)), settles_of_ne (hne _ (by decide))⟩

end Step

/-! ## All pieces -/

section Run

variable {pieces : List (String × String)} {f g : WindowFeatures} {e : FeatureError}

/-- Sound pieces are all followed; otherwise the first one that is not sound ends the run. -/
theorem foldlM_outcome (pieces : List (String × String)) (f : WindowFeatures) :
    (∃ g, pieces.foldlM apply f = .ok g ∧ (∀ piece ∈ pieces, IsSound piece) ∧
        Follows f pieces g) ∨
      ∃ piece, pieces.foldlM apply f = .error (faultOf piece) ∧
        IsFirst (fun piece => ¬ IsSound piece) pieces piece := by
  induction pieces generalizing f with
  | nil => exact .inl ⟨f, rfl, fun _ hpiece => absurd hpiece List.not_mem_nil, .refl f⟩
  | cons head pieces ih =>
    rw [List.foldlM_cons]
    rcases apply_outcome f head with ⟨next, happly, hhead, hnext⟩ | ⟨happly, hbad⟩
    · rw [happly]
      rcases ih next with ⟨g, hrun, hsound, hg⟩ | ⟨piece, hrun, hfirst⟩
      · exact .inl ⟨g, hrun, List.forall_mem_cons.2 ⟨hhead, hsound⟩, hnext.append hg⟩
      · exact .inr ⟨piece, hrun, isFirst_cons.2 (.inr ⟨not_not_intro hhead, hfirst⟩)⟩
    · rw [happly]
      exact .inr ⟨head, rfl, isFirst_cons.2 (.inl ⟨hbad, rfl⟩)⟩

theorem not_forall_sound_of_isFirst {piece : String × String}
    (h : IsFirst (fun piece => ¬ IsSound piece) pieces piece) :
    ¬ ∀ piece ∈ pieces, IsSound piece := by
  have hmem := h.mem
  obtain ⟨before, after, -, hbad, -⟩ := h
  exact fun hsound => hbad (hsound piece hmem)

theorem foldlM_eq_ok_iff :
    pieces.foldlM apply f = .ok g ↔ (∀ piece ∈ pieces, IsSound piece) ∧ Follows f pieces g := by
  rcases foldlM_outcome pieces f with ⟨g', hrun, hsound, hg'⟩ | ⟨piece, hrun, hfirst⟩
  · rw [hrun, Except.ok.injEq]
    constructor
    · rintro rfl
      exact ⟨hsound, hg'⟩
    · rintro ⟨-, hg⟩
      exact hg'.unique hg
  · rw [hrun]
    constructor
    · intro h
      cases h
    · rintro ⟨hsound, -⟩
      exact absurd hsound (not_forall_sound_of_isFirst hfirst)

theorem foldlM_eq_error_iff :
    pieces.foldlM apply f = .error e ↔
      ∃ piece, IsFirst (fun piece => ¬ IsSound piece) pieces piece ∧ e = faultOf piece := by
  rcases foldlM_outcome pieces f with ⟨g, hrun, hsound, -⟩ | ⟨piece, hrun, hfirst⟩
  · rw [hrun]
    constructor
    · intro h
      cases h
    · rintro ⟨piece, hfirst, -⟩
      exact absurd hsound (not_forall_sound_of_isFirst hfirst)
  · rw [hrun, Except.error.injEq]
    constructor
    · rintro rfl
      exact ⟨piece, hfirst, rfl⟩
    · rintro ⟨other, hother, rfl⟩
      rw [hfirst.unique hother]

theorem exists_foldlM_iff :
    (∃ g, pieces.foldlM apply f = .ok g) ↔ ∀ piece ∈ pieces, IsSound piece := by
  rcases foldlM_outcome pieces f with ⟨g, hrun, hsound, -⟩ | ⟨piece, hrun, hfirst⟩
  · exact iff_of_true ⟨g, hrun⟩ hsound
  · refine iff_of_false ?_ (not_forall_sound_of_isFirst hfirst)
    rintro ⟨g, h⟩
    cases h.symm.trans hrun

/-- Pieces with other keys are passed over. -/
theorem foldlM_filter_keys (pieces : List (String × String)) (f : WindowFeatures) :
    (pieces.filter (·.1 ∈ keys)).foldlM apply f = pieces.foldlM apply f := by
  rw [List.foldlM_filter]
  congr
  funext f piece
  by_cases h : piece.1 ∈ keys
  · simp [h]
  · simp only [h, decide_false, Bool.false_eq_true, if_false, apply_of_not_mem f h]
    rfl

end Run

/-! ## Feature texts -/

theorem read_eq_ok_iff {text : String} {f : WindowFeatures} :
    read text = .ok f ↔
      (∀ piece ∈ pairs text.toList, IsSound piece) ∧ Follows bare (pairs text.toList) f :=
  foldlM_eq_ok_iff

/-- What is read depends on the pieces with known keys only. -/
theorem read_of_filter_eq {text other : String}
    (h : (pairs other.toList).filter (·.1 ∈ keys) = (pairs text.toList).filter (·.1 ∈ keys)) :
    read other = read text := by
  rw [read, read, ← foldlM_filter_keys, h, foldlM_filter_keys]

/-- Where the text can be read, only the order within each key counts. -/
theorem read_of_valuesOf_eq {text other : String} {f : WindowFeatures} (h : read text = .ok f)
    (hvalues : ∀ key ∈ keys,
      valuesOf key (pairs other.toList) = valuesOf key (pairs text.toList)) :
    read other = .ok f := by
  obtain ⟨hsound, hfollows⟩ := read_eq_ok_iff.1 h
  refine read_eq_ok_iff.2 ⟨fun piece hpiece => ?_, hfollows.congr hvalues⟩
  by_cases hkey : piece.1 ∈ keys
  · refine hsound piece ?_
    rw [← mem_valuesOf_iff, ← hvalues _ hkey, mem_valuesOf_iff]
    exact hpiece
  · exact isSound_of_not_mem hkey

theorem filter_keys_of_unknown {piece : List Char} (h : ∀ p ∈ pairs piece, p.1 ∉ keys)
    (front back : List (List Char)) :
    (pairs ([','].intercalate (front ++ piece :: back))).filter (·.1 ∈ keys) =
      (pairs ([','].intercalate (front ++ back))).filter (·.1 ∈ keys) := by
  have hpiece : (pairs piece).filter (·.1 ∈ keys) = [] :=
    List.filter_eq_nil_iff.2 fun p hp => by simpa using h p hp
  simp only [pairs_intercalate, List.flatMap_append, List.flatMap_cons, List.filter_append, hpiece,
    List.nil_append]

/-- The meaning of a feature text. Its parts between commas are read as keys and values, white space
aside. The text can be read exactly if every value is one that its key allows; then every feature is
what the last piece with its key says, and off or not given if there is none. Otherwise the fault is
that of the first piece that is not sound. What is read depends on the pieces with known keys only,
so that a part in which all keys are unknown may be put in or left out anywhere. Where the text can
be read, pieces with different keys may change places. -/
theorem read_meaning (text : String) :
    List.Forall₂ Reads (cut text.toList) (pairs text.toList) ∧
    ((∃ f, read text = .ok f) ↔ ∀ piece ∈ pairs text.toList, IsSound piece) ∧
    (∀ f, read text = .ok f → Follows bare (pairs text.toList) f) ∧
    (∀ e, read text = .error e ↔
      ∃ piece, IsFirst (fun piece => ¬ IsSound piece) (pairs text.toList) piece ∧
        e = faultOf piece) ∧
    (∀ other : String,
      (pairs other.toList).filter (·.1 ∈ keys) = (pairs text.toList).filter (·.1 ∈ keys) →
        read other = read text) ∧
    (∀ front back piece, text.toList = [','].intercalate (front ++ back) →
      (∀ p ∈ pairs piece, p.1 ∉ keys) →
        read (String.ofList ([','].intercalate (front ++ piece :: back))) = read text) ∧
    ∀ (other : String) (f : WindowFeatures), read text = .ok f →
      (∀ key ∈ keys, valuesOf key (pairs other.toList) = valuesOf key (pairs text.toList)) →
        read other = .ok f := by
  refine ⟨reads_pairs _, exists_foldlM_iff, fun f h => (read_eq_ok_iff.1 h).2,
    fun e => foldlM_eq_error_iff, fun other => read_of_filter_eq, ?_,
    fun other f => read_of_valuesOf_eq⟩
  intro front back piece htext hunknown
  refine read_of_filter_eq ?_
  rw [String.toList_ofList, htext]
  exact filter_keys_of_unknown hunknown front back

/-- Of two pieces for the tool bar the last one counts, the menu bar does not matter, and the pieces
may be read in another order. -/
theorem read_meaning_mixed :
    read "toolbar, WIDTH = +640 ,,menubar=?,Toolbar=No,scrollbars" =
        .ok ⟨false, some 640, none, true⟩ ∧
      read "width=+640,scrollbars,toolbar,toolbar=No" = .ok ⟨false, some 640, none, true⟩ := by
  have hread : read "toolbar, WIDTH = +640 ,,menubar=?,Toolbar=No,scrollbars" =
      .ok ⟨false, some 640, none, true⟩ := by decide +kernel
  obtain ⟨-, -, -, -, -, -, horder⟩ :=
    read_meaning "toolbar, WIDTH = +640 ,,menubar=?,Toolbar=No,scrollbars"
  exact ⟨hread, horder _ _ hread (by decide +kernel)⟩

end PlumeForm.WindowFeatures
