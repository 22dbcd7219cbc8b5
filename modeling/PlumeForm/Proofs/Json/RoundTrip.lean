import PlumeForm.Proofs.Json.Tokens

/-!
# Written JSON is read back

The machine that reads tokens builds a value from the value's tokens, inside of any frames that
leave room for its levels (`builds_of_readable`). Together with the tokens of the two layouts: what
is read from either text of a value is the value, as long as its numbers read back
(`read?_of_mem_texts`).
-/

namespace PlumeForm.Json

/-- A member of a new name is put behind the others. -/
theorem put_of_nodup {done : List (String × Json)} {m : String × Json} {ms : List (String × Json)}
    (h : ((done ++ m :: ms).map (·.1)).Nodup) : put done m.1 m.2 = done ++ [m] := by
  induction done with
  | nil => rfl
  | cons w ws ih =>
    rw [List.cons_append, List.map_cons, List.nodup_cons] at h
    have hne : w.1 ≠ m.1 := fun heq => h.1 (by simp [heq])
    rw [put, if_neg hne, ih h.2, List.cons_append]

/-! ## Runs of the machine -/

section Machine

variable {limit levels : Nat} {frames : List Frame}

variable (limit) in
/-- The tokens lead the machine from one state to the other. -/
def Runs (m : Machine) (ts : List Token) (m' : Machine) : Prop :=
  ts.foldlM (Machine.step limit) m = some m'

theorem Runs.nil (m : Machine) : Runs limit m [] m := rfl

theorem Runs.cons {m n m' : Machine} {t : Token} {ts : List Token} (h : m.step limit t = some n)
    (hrest : Runs limit n ts m') : Runs limit m (t :: ts) m' := by
  rw [Runs, List.foldlM_cons, h]
  exact hrest

theorem Runs.append {m n m' : Machine} {ts us : List Token} (h : Runs limit m ts n)
    (hrest : Runs limit n us m') : Runs limit m (ts ++ us) m' := by
  rw [Runs, List.foldlM_append, h]
  exact hrest

variable (limit levels) in
/-- Where a value may stand, and so many levels may still be opened, the value is built from its
tokens. -/
def Builds (v : Json) : Prop :=
  ∀ (frames : List Frame) (mayClose : Bool), frames.length + levels ≤ limit →
    Runs limit ⟨frames, .value mayClose⟩ (tokens v) ⟨frames, .separator v⟩

/-- The items of a list are put on top of those that are done. -/
theorem runs_items {v : Json} {vs : List Json} (h : ∀ w ∈ v :: vs, Builds limit levels w)
    (hroom : frames.length + 1 + levels ≤ limit) (done : List Json) (mayClose : Bool) :
    Runs limit ⟨.items done :: frames, .value mayClose⟩
      ([Token.comma].intercalate (tokensOfItems (v :: vs)) ++ [Token.closeList])
      ⟨frames, .separator (.list (done.reverse ++ v :: vs))⟩ := by
  induction vs generalizing v done mayClose with
  | nil =>
    have hv := h v List.mem_cons_self (.items done :: frames) mayClose hroom
    have hclose : Machine.step limit ⟨.items done :: frames, .separator v⟩ .closeList =
        some ⟨frames, .separator (.list (done.reverse ++ [v]))⟩ := by
      simp [Machine.step]
    simpa [tokensOfItems] using hv.append (.cons hclose (.nil _))
  | cons w vs ih =>
    obtain ⟨hv, hvs⟩ := List.forall_mem_cons.1 h
    have hfirst := hv (.items done :: frames) mayClose hroom
    have hcomma : Machine.step limit ⟨.items done :: frames, .separator v⟩ .comma =
        some ⟨.items (v :: done) :: frames, .value false⟩ := rfl
    have hrest := hfirst.append (.cons hcomma (ih hvs (v :: done) false))
    simpa [tokensOfItems, List.intercalate_cons_cons] using hrest

/-- The name and the value of a member are read, and the member waits to be put to the others. -/
theorem runs_member {m : String × Json} (h : Builds limit levels m.2)
    (hroom : frames.length + 1 + levels ≤ limit) (last done : List (String × Json))
    (name : String) (mayClose : Bool) :
    Runs limit ⟨.members last name :: frames, .name done mayClose⟩ (memberTokens m)
      ⟨.members done m.1 :: frames, .separator m.2⟩ := by
  have hname : Machine.step limit ⟨.members last name :: frames, .name done mayClose⟩
      (.scalar (.text m.1)) = some ⟨.members last name :: frames, .colon done m.1⟩ := by
    cases mayClose <;> rfl
  have hvalue := h (.members done m.1 :: frames) false hroom
  exact .cons hname (.cons rfl hvalue)

/-- The members of an object follow those that are done. -/
theorem runs_members {m : String × Json} {ms done : List (String × Json)}
    (h : ∀ w ∈ m :: ms, Builds limit levels w.2) (hroom : frames.length + 1 + levels ≤ limit)
    (hnames : ((done ++ m :: ms).map (·.1)).Nodup) (last : List (String × Json)) (name : String)
    (mayClose : Bool) :
    Runs limit ⟨.members last name :: frames, .name done mayClose⟩
      ([Token.comma].intercalate ((m :: ms).map memberTokens) ++ [Token.closeObject])
      ⟨frames, .separator (.object (done ++ m :: ms))⟩ := by
  -- The names are distinct, so putting a member to those that are done is appending it.
  induction ms generalizing m done last name mayClose with
  | nil =>
    have hfirst := runs_member (h m List.mem_cons_self) hroom last done name mayClose
    have hclose : Machine.step limit ⟨.members done m.1 :: frames, .separator m.2⟩ .closeObject =
        some ⟨frames, .separator (.object (done ++ [m]))⟩ := by
      rw [← put_of_nodup hnames]
      rfl
    simpa using hfirst.append (.cons hclose (.nil _))
  | cons w ms ih =>
    obtain ⟨hm, hms⟩ := List.forall_mem_cons.1 h
    have hfirst := runs_member hm hroom last done name mayClose
    have hcomma : Machine.step limit ⟨.members done m.1 :: frames, .separator m.2⟩ .comma =
        some ⟨.members done m.1 :: frames, .name (done ++ [m]) false⟩ := by
      rw [← put_of_nodup hnames]
      rfl
    have hnext : ((done ++ [m] ++ w :: ms).map (·.1)).Nodup := by simpa using hnames
    have hrest := ih hms hnext done m.1 false
    simpa [List.intercalate_cons_cons] using hfirst.append (.cons hcomma hrest)

/-- The machine builds every value that does not need more levels than it may open. -/
theorem builds_of_readable {v : Json} (h : Readable levels v) : Builds limit levels v := by
  induction h with
  | null => exact fun _ _ _ => .cons rfl (.nil _)
  | bool b => exact fun _ _ _ => .cons rfl (.nil _)
  | number h => exact fun _ _ _ => .cons rfl (.nil _)
  | text s => exact fun _ _ _ => .cons rfl (.nil _)
  | @list levels items h ih =>
    intro frames mayClose hroom
    have hopen : Machine.step limit ⟨frames, .value mayClose⟩ .openList =
        some ⟨.items [] :: frames, .value true⟩ := by
      have hfits : (Frame.items [] :: frames).length ≤ limit := by
        rw [List.length_cons]
        omega
      simp only [Machine.step, Machine.enter, hfits, if_true]
    cases items with
    | nil => exact .cons hopen (.cons rfl (.nil _))
    | cons v vs => exact .cons hopen (runs_items ih (by omega) [] true)
  | @object levels members hnames h ih =>
    intro frames mayClose hroom
    have hopen : Machine.step limit ⟨frames, .value mayClose⟩ .openObject =
        some ⟨.members [] "" :: frames, .name [] true⟩ := by
      have hfits : (Frame.members [] "" :: frames).length ≤ limit := by
        rw [List.length_cons]
        omega
      simp only [Machine.step, Machine.enter, hfits, if_true]
    cases members with
    | nil => exact .cons hopen (.cons rfl (.nil _))
    | cons m ms =>
      rw [tokens, tokensOfMembers_eq]
      exact .cons hopen (runs_members ih (by omega) hnames [] "" true)

end Machine

/-! ## Texts -/

/-- The texts of a value: on one line and on many. -/
def texts (v : Json) : List String := [v.compact, v.spread]

theorem read?_of_spells {text : String} {v : Json} (hread : Readable depthLimit v)
    (h : Spells text.toList (tokens v)) : read? text = some v := by
  have htokens : tokens? text.toList = some (tokens v) := h.lexes _ (Nat.le_refl _)
  have hbuilt : Runs depthLimit Machine.start (tokens v) ⟨[], .separator v⟩ :=
    builds_of_readable hread [] false (by simp)
  rw [read?, htokens, Option.bind_some, ofTokens?, hbuilt]
  rfl

/-- A value is read back from each of its texts. -/
theorem read?_of_mem_texts {text : String} {v : Json} (hread : Readable depthLimit v)
    (h : text ∈ v.texts) : read? text = some v := by
  simp only [texts, List.mem_cons, List.not_mem_nil, or_false] at h
  rcases h with rfl | rfl
  · apply read?_of_spells hread
    rw [compact, String.toList_ofList]
    exact spells_compactChars hread
  · apply read?_of_spells hread
    rw [spread, String.toList_ofList]
    exact spells_spreadChars hread 0

end PlumeForm.Json
