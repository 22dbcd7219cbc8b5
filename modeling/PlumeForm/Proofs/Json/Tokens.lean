import PlumeForm.Proofs.Json.Numbers
import PlumeForm.Proofs.Json.Texts

/-!
# The tokens of written JSON

A JSON value has its tokens (`tokens`), whatever its layout. Both layouts are cut into exactly
these, as long as the numbers in the value read back (`spells_compactChars`,
`spells_spreadChars`): white space gives no token, and behind a number there is always a mark or
white space.
-/

namespace PlumeForm.Json

/-! ## Tokens of a value -/

mutual

/-- The tokens of a value. -/
def tokens : Json → List Token
  | .list items => .openList :: [.comma].intercalate (tokensOfItems items) ++ [.closeList]
  | .object members =>
    .openObject :: [.comma].intercalate (tokensOfMembers members) ++ [.closeObject]
  | scalar => [.scalar scalar]

/-- The tokens of each item. -/
def tokensOfItems : List Json → List (List Token)
  | [] => []
  | v :: vs => tokens v :: tokensOfItems vs

/-- The tokens of each member. -/
def tokensOfMembers : List (String × Json) → List (List Token)
  | [] => []
  | (n, v) :: ms => (.scalar (.text n) :: .colon :: tokens v) :: tokensOfMembers ms

end

/-- The tokens of a member. -/
def memberTokens (m : String × Json) : List Token :=
  .scalar (.text m.1) :: .colon :: tokens m.2

theorem tokensOfItems_eq (vs : List Json) : tokensOfItems vs = vs.map tokens := by
  induction vs with
  | nil => rfl
  | cons v vs ih => rw [tokensOfItems, ih, List.map_cons]

theorem tokensOfMembers_eq (ms : List (String × Json)) :
    tokensOfMembers ms = ms.map memberTokens := by
  induction ms with
  | nil => rfl
  | cons m ms ih => rw [tokensOfMembers, ih, List.map_cons, memberTokens]

theorem compactItems_eq (vs : List Json) : compactItems vs = vs.map compactChars := by
  induction vs with
  | nil => rfl
  | cons v vs ih => rw [compactItems, ih, List.map_cons]

theorem compactMembers_eq (ms : List (String × Json)) :
    compactMembers ms = ms.map fun m => writeText m.1 ++ ':' :: compactChars m.2 := by
  induction ms with
  | nil => rfl
  | cons m ms ih => rw [compactMembers, ih, List.map_cons]

theorem spreadItems_eq (depth : Nat) (vs : List Json) :
    spreadItems depth vs = vs.map fun v => newLine depth ++ spreadChars depth v := by
  induction vs with
  | nil => rfl
  | cons v vs ih => rw [spreadItems, ih, List.map_cons]

theorem spreadMembers_eq (depth : Nat) (ms : List (String × Json)) :
    spreadMembers depth ms =
      ms.map fun m =>
        newLine depth ++ writeText m.1 ++ [':', ' '] ++ spreadChars depth m.2 := by
  induction ms with
  | nil => rfl
  | cons m ms ih => rw [spreadMembers, ih, List.map_cons]

/-- The value has at most so many levels of lists and objects, no two members of an object have one
name, and its numbers read back. -/
inductive Readable : Nat → Json → Prop
  | null {levels : Nat} : Readable levels .null
  | bool {levels : Nat} (b : Bool) : Readable levels (.bool b)
  | number {levels : Nat} {n : JsonNumber} (h : ReadsBack n) : Readable levels (.number n)
  | text {levels : Nat} (s : String) : Readable levels (.text s)
  | list {levels : Nat} {items : List Json} (h : ∀ v ∈ items, Readable levels v) :
    Readable (levels + 1) (.list items)
  | object {levels : Nat} {members : List (String × Json)} (hnames : (members.map (·.1)).Nodup)
      (h : ∀ m ∈ members, Readable levels m.2) : Readable (levels + 1) (.object members)

/-! ## Cutting a text -/

/-- The text is cut into these tokens. -/
def Lexes (cs : List Char) (ts : List Token) : Prop :=
  ∀ room, cs.length ≤ room → tokensWithin room cs = some ts

theorem lexes_nil : Lexes [] [] := fun room _ => by cases room <;> rfl

theorem lexes_gap {c : Char} {cs : List Char} {ts : List Token} (hgap : isGap c = true)
    (h : Lexes cs ts) : Lexes (c :: cs) ts := by
  intro room hroom
  obtain ⟨room, rfl⟩ := Nat.exists_eq_add_one_of_ne_zero (Nat.ne_zero_of_lt hroom)
  rw [tokensWithin, if_pos hgap]
  exact h room (Nat.le_of_succ_le_succ hroom)

theorem lexes_gaps {gap cs : List Char} {ts : List Token} (hgap : ∀ c ∈ gap, isGap c = true)
    (h : Lexes cs ts) : Lexes (gap ++ cs) ts := by
  induction gap with
  | nil => exact h
  | cons c gap ih =>
    rw [List.forall_mem_cons] at hgap
    exact lexes_gap hgap.1 (ih hgap.2)

theorem lexes_token {c : Char} {rest cs : List Char} {t : Token} {ts : List Token}
    (hgap : isGap c = false) (htoken : readToken? c rest = some (t, cs))
    (hlength : cs.length ≤ rest.length) (h : Lexes cs ts) : Lexes (c :: rest) (t :: ts) := by
  intro room hroom
  obtain ⟨room, rfl⟩ := Nat.exists_eq_add_one_of_ne_zero (Nat.ne_zero_of_lt hroom)
  have hrest := h room (Nat.le_trans hlength (Nat.le_of_succ_le_succ hroom))
  rw [tokensWithin, hgap, htoken]
  simp only [hrest, Bool.false_eq_true, if_false, Option.map_some]

theorem lexes_mark {c : Char} {cs : List Char} {t : Token} {ts : List Token}
    (hmark : mark? c = some t) (h : Lexes cs ts) : Lexes (c :: cs) (t :: ts) := by
  have hgap : isGap c = false := by
    rw [← Bool.not_eq_true]
    intro hgap
    simp only [isGap, Bool.or_eq_true, beq_iff_eq] at hgap
    rcases hgap with ((rfl | rfl) | rfl) | rfl <;> cases hmark
  exact lexes_token hgap (by simp only [readToken?, hmark]) (Nat.le_refl _) h

/-- In front of whatever does not go on with a number, the characters are cut into these tokens. -/
def Spells (cs : List Char) (ts : List Token) : Prop :=
  ∀ rest us, EndsNumber rest → Lexes rest us → Lexes (cs ++ rest) (ts ++ us)

theorem Spells.lexes {cs : List Char} {ts : List Token} (h : Spells cs ts) : Lexes cs ts := by
  have hend := h [] [] endsNumber_nil lexes_nil
  rwa [List.append_nil, List.append_nil] at hend

theorem spells_writeText (s : String) : Spells (writeText s) [.scalar (.text s)] := by
  intro rest us _ h
  have htext : readText? [] none (s.toList.flatMap escapeChar ++ '"' :: rest) =
      some (s.toList, rest) := readText?_flatMap_escapeChar s.toList [] rest
  have happend : writeText s ++ rest = '"' :: (s.toList.flatMap escapeChar ++ '"' :: rest) := by
    simp [writeText]
  rw [happend]
  refine lexes_token rfl ?_ ?_ h
  · simp [readToken?, mark?, readScalar?, htext]
  · simp only [List.length_append, List.length_cons]
    omega

/-- A number is no gap and no mark, and does not begin like a text or a word. -/
theorem readToken?_of_readNumber? {c : Char} {cs rest : List Char} {n : JsonNumber}
    (h : readNumber? (c :: cs) = some (n, rest)) :
    isGap c = false ∧ readToken? c cs = some (.scalar (.number n), rest) := by
  have hne : ∀ x : Char, x ≠ '-' ∧ x.isDigit = false → c ≠ x := by
    rintro x ⟨hminus, hdigit⟩ rfl
    rcases head_of_readNumber? h with hhead | hhead
    · exact hminus hhead
    · rw [hdigit] at hhead
      cases hhead
  have hmark : mark? c = none := by
    simp [mark?, hne '[' (by decide), hne ']' (by decide), hne '\x7b' (by decide),
      hne '\x7d' (by decide), hne ',' (by decide), hne ':' (by decide)]
  constructor
  · simp [isGap, hne ' ' (by decide), hne '\t' (by decide), hne '\n' (by decide),
      hne '\r' (by decide)]
  · simp [readToken?, hmark, readScalar?, hne '"' (by decide), hne 't' (by decide),
      hne 'f' (by decide), hne 'n' (by decide), h]

theorem spells_writeNumber {n : JsonNumber} (hn : ReadsBack n) :
    Spells (writeNumber n) [.scalar (.number n)] := by
  intro rest us hrest h
  have hread := hn.readNumber?_append hrest
  cases hwritten : writeNumber n with
  | nil =>
    rw [ReadsBack, hwritten] at hn
    cases hn
  | cons c cs =>
    rw [hwritten] at hread
    obtain ⟨hgap, htoken⟩ := readToken?_of_readNumber? hread
    exact lexes_token hgap htoken (by simp) h

theorem spells_word {c : Char} {word : List Char} {v : Json} (hgap : isGap c = false)
    (hread : ∀ rest, readToken? c (word ++ rest) = some (.scalar v, rest)) :
    Spells (c :: word) [.scalar v] := by
  intro rest us _ h
  exact lexes_token hgap (hread rest) (by simp) h

theorem spells_null : Spells "null".toList [.scalar .null] :=
  spells_word rfl fun _ => rfl

theorem spells_bool (b : Bool) :
    Spells (if b then "true" else "false").toList [.scalar (.bool b)] := by
  cases b with
  | true => exact spells_word rfl fun _ => rfl
  | false => exact spells_word rfl fun _ => rfl

/-! ## Lists and objects -/

theorem spells_pair {first last : Char} {start stop : Token} (hstart : mark? first = some start)
    (hstop : mark? last = some stop) : Spells [first, last] [start, stop] :=
  fun _ _ _ h => lexes_mark hstart (lexes_mark hstop h)

section Groups

variable {α : Type} {write : α → List Char} {cut : α → List Token}

/-- Pieces with commas between them are cut into their tokens with commas between them. -/
theorem spells_joinWith {items : List α} (h : ∀ a ∈ items, Spells (write a) (cut a)) :
    Spells (joinWith [','] (items.map write)) ([.comma].intercalate (items.map cut)) := by
  induction items with
  | nil => exact fun _ _ _ h => h
  | cons a items ih =>
    obtain ⟨ha, hitems⟩ := List.forall_mem_cons.1 h
    cases items with
    | nil => simpa [joinWith] using ha
    | cons b items =>
      intro rest us hrest hlexes
      have hcomma := lexes_mark (c := ',') rfl (ih hitems rest us hrest hlexes)
      have hfirst := ha _ _ (endsNumber_cons (by decide)) hcomma
      simpa [joinWith, List.intercalate_cons_cons] using hfirst

/-- Pieces between two marks, on one line or with a gap before the second mark. -/
theorem spells_group (gap : List Char) {items : List α} {first last : Char}
    {start stop : Token} (hstart : mark? first = some start) (hstop : mark? last = some stop)
    (hlast : last.isDigit = false ∧ last ≠ '.' ∧ last ≠ 'e' ∧ last ≠ 'E')
    (hgap : ∀ c ∈ gap, isGap c = true) (h : ∀ a ∈ items, Spells (write a) (cut a)) :
    Spells (first :: joinWith [','] (items.map write) ++ (gap ++ [last]))
      (start :: [.comma].intercalate (items.map cut) ++ [stop]) := by
  intro rest us _ hlexes
  -- A number at the end of the last piece ends before the gap, or before the mark if there is none.
  have hend : EndsNumber (gap ++ last :: rest) := by
    cases gap with
    | nil => exact endsNumber_cons hlast
    | cons c gap =>
      apply endsNumber_cons
      have hc := (List.forall_mem_cons.1 hgap).1
      simp only [isGap, Bool.or_eq_true, beq_iff_eq] at hc
      rcases hc with ((rfl | rfl) | rfl) | rfl <;> decide
  have hclose := lexes_gaps hgap (lexes_mark hstop hlexes)
  have hitems := spells_joinWith h _ _ hend hclose
  simpa using lexes_mark hstart hitems

end Groups

/-- A value on one line is cut into its tokens. -/
theorem spells_compactChars {levels : Nat} {v : Json} (h : Readable levels v) :
    Spells (compactChars v) (tokens v) := by
  induction h with
  | null => exact spells_null
  | bool b => exact spells_bool b
  | number h => exact spells_writeNumber h
  | text s => exact spells_writeText s
  | list h ih =>
    rw [compactChars, tokens, compactItems_eq, tokensOfItems_eq]
    exact spells_group [] rfl rfl (by decide) (by simp) ih
  | object hnames h ih =>
    rw [compactChars, tokens, compactMembers_eq, tokensOfMembers_eq]
    refine spells_group [] rfl rfl (by decide) (by simp) ?_
    intro m hm rest us hrest hlexes
    have hcolon := lexes_mark (c := ':') rfl (ih m hm rest us hrest hlexes)
    have hname := spells_writeText m.1 _ _ (endsNumber_cons (by decide)) hcolon
    simpa [memberTokens] using hname

theorem isGap_of_mem_newLine (depth : Nat) : ∀ c ∈ newLine depth, isGap c = true := by
  intro c hc
  rcases List.mem_cons.1 hc with rfl | hspace
  · rfl
  · rw [List.eq_of_mem_replicate hspace]
    rfl

/-- A value on many lines is cut into the same tokens. -/
theorem spells_spreadChars {levels : Nat} {v : Json} (h : Readable levels v) (depth : Nat) :
    Spells (spreadChars depth v) (tokens v) := by
  induction h generalizing depth with
  | null => exact spells_null
  | bool b => exact spells_bool b
  | number h => exact spells_writeNumber h
  | text s => exact spells_writeText s
  | @list levels items h ih =>
    cases items with
    | nil => exact spells_pair rfl rfl
    | cons v vs =>
      rw [spreadChars, tokens, spreadItems_eq, tokensOfItems_eq, List.append_assoc]
      refine spells_group _ rfl rfl (by decide) (isGap_of_mem_newLine depth) ?_
      intro w hw rest us hrest hlexes
      have hitem := lexes_gaps (isGap_of_mem_newLine (depth + 1))
        (ih w hw (depth + 1) rest us hrest hlexes)
      simpa using hitem
  | @object levels members hnames h ih =>
    cases members with
    | nil => exact spells_pair rfl rfl
    | cons m ms =>
      rw [spreadChars, tokens, spreadMembers_eq, tokensOfMembers_eq, List.append_assoc]
      refine spells_group _ rfl rfl (by decide) (isGap_of_mem_newLine depth) ?_
      intro w hw rest us hrest hlexes
      have hvalue := ih w hw (depth + 1) rest us hrest hlexes
      have hcolon := lexes_mark (c := ':') rfl (lexes_gap (c := ' ') rfl hvalue)
      have hname := spells_writeText w.1 _ _ (endsNumber_cons (by decide)) hcolon
      have hmember := lexes_gaps (isGap_of_mem_newLine (depth + 1)) hname
      simpa [memberTokens] using hmember

end PlumeForm.Json
