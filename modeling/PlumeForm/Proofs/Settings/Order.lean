import PlumeForm.Proofs.Settings.Layers

/-!
# The order in which variables are read

An environment does not say in which order its variables are read. The order counts only where one
variable goes to the place of another one, or inside of it, and a choice has to do with the place.
Keys that stand clear of each other (`Clear`) may be laid in any order (`ofTree?_layKeys_perm`), and
those of plain variables do (`PlainVariables.clear`). The trees that two orders lead to have their
members in different order, so they are compared by what they say of the choices (`AlikeAt`).
-/

namespace PlumeForm

namespace SettingsTree

/-! ## Members -/

theorem length_put (members : Members) (name : String) (value : SettingsTree) :
    (put members name value).length =
      members.length + if (find? members name).isSome then 0 else 1 := by
  induction members with
  | nil => rfl
  | cons m ms ih =>
    rw [put, find?_cons]
    by_cases hm : m.1 = name
    · rw [if_pos hm, if_pos hm]
      rfl
    · rw [if_neg hm, if_neg hm, List.length_cons, ih, List.length_cons, Nat.add_right_comm]

/-- Of two values that are put under a name, the second one stays. -/
theorem put_put (members : Members) (name : String) (first second : SettingsTree) :
    put (put members name first) name second = put members name second := by
  induction members with
  | nil => simp [put]
  | cons m ms ih =>
    by_cases hm : m.1 = name
    · simp [put, hm]
    · simp [put, hm, ih]

/-! ## Places -/

/-- The names that a place begins with; an index ends them. -/
def stem : List Step → List String
  | [.name name] => [smallName name]
  | .name name :: rest => name :: stem rest
  | _ => []

theorem head?_stem (place : List Step) : (stem place).head? = head? place := by
  match place with
  | [] => rfl
  | .item index :: rest => rfl
  | [.name name] => rfl
  | .name name :: step :: rest => rfl

theorem stem_placeOf_ne_nil (key : String) : stem (placeOf key) ≠ [] := by
  obtain ⟨name, hname⟩ := exists_head?_placeOf key
  intro hnil
  rw [← head?_stem, hnil] at hname
  cases hname

theorem stem_named {names : List String} (hsmall : ∀ n ∈ names, smallName n = n) :
    stem (named names) = names := by
  induction names with
  | nil => rfl
  | cons name names ih =>
    cases names with
    | nil => exact congrArg (fun n => [n]) (hsmall name List.mem_cons_self)
    | cons next rest =>
      have hrest : stem (named (next :: rest)) = next :: rest :=
        ih fun n hn => hsmall n (List.mem_cons_of_mem name hn)
      exact congrArg (name :: ·) hrest

/-- A value that is laid at a place is put under the first name of the place, inside of what stood
there if there are more names. -/
theorem exists_layAt_eq_put {value : SettingsTree} (hvalue : value.isTable = false)
    {place : List Step} {name : String} {names : List String}
    (hstem : stem place = name :: names) :
    ∃ inner : SettingsTree → SettingsTree,
      (∀ tree, layAt value place tree =
        table (put (membersOf tree) name
          (inner ((find? (membersOf tree) name).getD null)))) ∧
      (names ≠ [] → ∃ rest, stem rest = names ∧ inner = layAt value rest) := by
  match place with
  | [] => cases hstem
  | .item index :: rest => cases hstem
  | [.name n] =>
    cases hstem
    refine ⟨fun _ => value, fun tree => ?_, fun hnames => absurd rfl hnames⟩
    rw [layAt, lay_of_not_isTable _ _ hvalue]
  | .name n :: step :: rest =>
    cases hstem
    refine ⟨layAt value (step :: rest), fun tree => ?_, fun _ => ⟨step :: rest, rfl, rfl⟩⟩
    rw [layAt]
    exact List.cons_ne_nil step rest

end SettingsTree

namespace Settings

open SettingsTree

/-! ## Trees that say the same -/

/-- A choice lies at the path, behind it or before it. -/
def Counts (path : List String) : Prop :=
  ∃ leaf ∈ Leaf.all, path <+: leaf.path ∨ leaf.path <+: path

instance (path : List String) : Decidable (Counts path) :=
  inferInstanceAs (Decidable (∃ leaf ∈ Leaf.all, path <+: leaf.path ∨ leaf.path <+: path))

/-- Trees that say the same when they stand at a path: they are the same but for the order of
members, and but for what no choice has to do with. -/
inductive AlikeAt : List String → SettingsTree → SettingsTree → Prop
  | refl (path : List String) (tree : SettingsTree) : AlikeAt path tree tree
  | idle {path : List String} (h : ¬ Counts path) (tree tree' : SettingsTree) :
      AlikeAt path tree tree'
  | tables {path : List String} {members members' : Members}
      (length_eq : members.length = members'.length)
      (isSome_eq : ∀ name, (find? members name).isSome = (find? members' name).isSome)
      (alike : ∀ name value value', find? members name = some value →
        find? members' name = some value' → AlikeAt (path ++ [name]) value value') :
      AlikeAt path (table members) (table members')

/-- Members of tables that say the same when these stand at a path. -/
structure MembersAlike (path : List String) (members members' : Members) : Prop where
  length_eq : members.length = members'.length
  isSome_eq : ∀ name, (find? members name).isSome = (find? members' name).isSome
  alike : ∀ name value value', find? members name = some value →
    find? members' name = some value' → AlikeAt (path ++ [name]) value value'

section

variable {path : List String} {members members' : Members} {tree tree' value : SettingsTree}

theorem MembersAlike.alikeAt (h : MembersAlike path members members') :
    AlikeAt path (table members) (table members') :=
  .tables h.length_eq h.isSome_eq h.alike

/-- Members that are the same but for their order. -/
theorem MembersAlike.of_find? (hlength : members.length = members'.length)
    (h : ∀ name, find? members name = find? members' name) :
    MembersAlike path members members' where
  length_eq := hlength
  isSome_eq name := congrArg Option.isSome (h name)
  alike name found found' hfound hfound' := by
    rw [h, hfound'] at hfound
    cases hfound
    exact .refl _ _

/-- A name stands in both tables, for values that say the same, or in neither. -/
theorem MembersAlike.find?_cases (h : MembersAlike path members members') (name : String) :
    (find? members name = none ∧ find? members' name = none) ∨
      ∃ found found', find? members name = some found ∧ find? members' name = some found' ∧
        AlikeAt (path ++ [name]) found found' := by
  have hsome := h.isSome_eq name
  cases hfound : find? members name with
  | none =>
    rw [hfound] at hsome
    exact .inl ⟨rfl, Option.isNone_iff_eq_none.1 (Option.isSome_eq_false_iff.1 hsome.symm)⟩
  | some found =>
    rw [hfound] at hsome
    obtain ⟨found', hfound'⟩ := Option.isSome_iff_exists.1 hsome.symm
    exact .inr ⟨found, found', rfl, hfound', h.alike name found found' hfound hfound'⟩

theorem MembersAlike.getD (h : MembersAlike path members members') (name : String) :
    AlikeAt (path ++ [name]) ((find? members name).getD null)
      ((find? members' name).getD null) := by
  rcases h.find?_cases name with ⟨hnone, hnone'⟩ | ⟨found, found', hfound, hfound', halike⟩
  · rw [hnone, hnone']
    exact .refl _ _
  · rw [hfound, hfound']
    exact halike

/-- Values that say the same are put under a name. -/
theorem MembersAlike.put (h : MembersAlike path members members') {name : String}
    {value' : SettingsTree} (hvalue : AlikeAt (path ++ [name]) value value') :
    MembersAlike path (put members name value) (put members' name value') where
  length_eq := by rw [length_put, length_put, h.length_eq, h.isSome_eq]
  isSome_eq other := by
    rw [find?_put, find?_put]
    split
    · rfl
    · exact h.isSome_eq other
  alike other found found' hfound hfound' := by
    rw [find?_put] at hfound hfound'
    by_cases hname : name = other
    · subst hname
      rw [if_pos rfl] at hfound hfound'
      cases hfound
      cases hfound'
      exact hvalue
    · rw [if_neg hname] at hfound hfound'
      exact h.alike other found found' hfound hfound'

/-- Trees that say the same still do so when a value is laid over both. -/
theorem AlikeAt.layAt (hvalue : value.isTable = false) (place : List Step)
    (h : AlikeAt path tree tree') :
    AlikeAt path (layAt value place tree) (layAt value place tree') := by
  induction place generalizing path tree tree' with
  | nil => exact .refl _ _
  | cons step rest ih =>
    cases h with
    | refl => exact .refl _ _
    | idle h => exact .idle h _ _
    | tables hlength hsome halike =>
      have hmembers : MembersAlike path _ _ := ⟨hlength, hsome, halike⟩
      cases step with
      | item index => exact .refl _ _
      | name name =>
        cases rest with
        | nil =>
          rw [SettingsTree.layAt, SettingsTree.layAt, lay_of_not_isTable _ _ hvalue,
            lay_of_not_isTable _ _ hvalue]
          exact (hmembers.put (.refl _ _)).alikeAt
        | cons next rest =>
          rw [SettingsTree.layAt, SettingsTree.layAt]
          · exact (hmembers.put (ih (hmembers.getD name))).alikeAt
          · exact List.cons_ne_nil next rest
          · exact List.cons_ne_nil next rest

/-- A layer keeps what trees say the same. -/
theorem AlikeAt.layKeys {keys : Members} (hvalues : ∀ m ∈ keys, m.2.isTable = false)
    (h : AlikeAt path tree tree') : AlikeAt path (layKeys tree keys) (layKeys tree' keys) := by
  induction keys generalizing tree tree' with
  | nil => exact h
  | cons m keys ih =>
    rw [List.forall_mem_cons] at hvalues
    rw [layKeys_cons, layKeys_cons]
    exact ih hvalues.2 (h.layAt hvalues.1 (placeOf m.1))

end

/-! ## Places that stand clear of each other -/

/-- Neither of two paths leads on from the other, or no choice has to do with either. -/
def Clear (p q : List String) : Prop :=
  Apart p q ∨ ¬ Counts p ∧ ¬ Counts q

instance (p q : List String) : Decidable (Clear p q) :=
  inferInstanceAs (Decidable (Apart p q ∨ ¬ Counts p ∧ ¬ Counts q))

theorem Clear.symm {p q : List String} (h : Clear p q) : Clear q p :=
  h.imp And.symm And.symm

/-- The places of two keys stand clear of each other. -/
def ClearKeys (m m' : String × SettingsTree) : Prop :=
  Clear (stem (placeOf m.1)) (stem (placeOf m'.1))

instance : DecidableRel ClearKeys := fun m m' =>
  inferInstanceAs (Decidable (Clear (stem (placeOf m.1)) (stem (placeOf m'.1))))

/-- Values that are laid at places with distinct first names are members next to each other. -/
theorem membersAlike_put_put {path : List String} (members : Members) {name name' : String}
    (hne : name ≠ name') (value value' : SettingsTree) :
    MembersAlike path (put (put members name' value') name value)
      (put (put members name value) name' value') := by
  refine .of_find? ?_ fun other => ?_
  · simp only [length_put, find?_put, if_neg hne, if_neg hne.symm]
    exact Nat.add_right_comm _ _ _
  · simp only [find?_put]
    by_cases hname : name = other
    · subst hname
      rw [if_pos rfl, if_neg hne.symm, if_pos rfl]
    · rw [if_neg hname, if_neg hname]

/-- Values may be laid in any order at places that stand clear of each other. -/
theorem alikeAt_layAt_layAt {value value' : SettingsTree} (hvalue : value.isTable = false)
    (hvalue' : value'.isTable = false) {path : List String} {place place' : List Step}
    (hne : stem place ≠ []) (hne' : stem place' ≠ [])
    (hclear : Apart (stem place) (stem place') ∨
      ¬ Counts (path ++ stem place) ∧ ¬ Counts (path ++ stem place')) (tree : SettingsTree) :
    AlikeAt path (layAt value place (layAt value' place' tree))
      (layAt value' place' (layAt value place tree)) := by
  obtain ⟨names, hnames⟩ : ∃ names, stem place = names := ⟨_, rfl⟩
  induction names generalizing path place place' tree with
  | nil => exact absurd hnames hne
  | cons name names ih =>
    obtain ⟨name', names', hnames'⟩ := List.exists_cons_of_ne_nil hne'
    obtain ⟨inner, hlaid, hinner⟩ := exists_layAt_eq_put hvalue hnames
    obtain ⟨inner', hlaid', hinner'⟩ := exists_layAt_eq_put hvalue' hnames'
    rw [hnames, hnames'] at hclear
    simp only [hlaid, hlaid', membersOf_table, find?_put]
    by_cases hname : name = name'
    · -- Both go on below the same member.
      subst hname
      simp only [if_true, Option.getD_some, put_put]
      refine (MembersAlike.put (.of_find? rfl fun _ => rfl) ?_).alikeAt
      by_cases hends : names = [] ∨ names' = []
      · refine .idle ?_ _ _
        rcases hends with rfl | rfl
        · exact hclear.elim (fun hapart => absurd ⟨names', rfl⟩ hapart.1) And.left
        · exact hclear.elim (fun hapart => absurd ⟨names, rfl⟩ hapart.2) And.right
      · obtain ⟨hmore, hmore'⟩ := not_or.1 hends
        obtain ⟨rest, rfl, rfl⟩ := hinner hmore
        obtain ⟨rest', rfl, rfl⟩ := hinner' hmore'
        refine ih hmore hmore' ?_ _ rfl
        rw [List.append_assoc, List.append_assoc]
        exact hclear.imp_left Apart.of_cons
    · rw [if_neg (Ne.symm hname), if_neg hname]
      exact (membersAlike_put_put _ hname _ _).alikeAt

/-! ## Settings of trees that say the same -/

theorem toWord?_congr {α : Type} (all : List α) (name : α → String) {members members' : Members}
    (hlength : members.length = members'.length)
    (hsome : ∀ name, (find? members name).isSome = (find? members' name).isSome) :
    toWord? all name (table members) = toWord? all name (table members') := by
  match members, members' with
  | [], [] => rfl
  | [(word, value)], [(word', value')] =>
    have hword : word' = word := by
      have hfound := hsome word
      rw [find?_cons, find?_cons, if_pos rfl] at hfound
      by_contra hne
      rw [if_neg hne] at hfound
      cases hfound
    rw [hword]
    rfl
  | _ :: _ :: _, _ :: _ :: _ => rfl

theorem AlikeAt.convert_eq {leaf : Leaf} {value value' : SettingsTree}
    (h : AlikeAt leaf.path value value') : leaf.convert value = leaf.convert value' := by
  cases h with
  | refl => rfl
  | idle hidle => exact absurd ⟨leaf, leaf.mem_all, .inl List.prefix_rfl⟩ hidle
  | tables hlength hsome =>
    cases leaf with
    | eruptionDateCheck => exact toWord?_congr _ _ hlength hsome
    | _ => rfl

section

variable {path : List String} {members members' : Members}

theorem MembersAlike.fieldOr_eq (h : MembersAlike path members members') {α : Type} {name : String}
    {read : SettingsTree → Option α}
    (hread : ∀ value value', AlikeAt (path ++ [name]) value value' → read value = read value')
    (default : α) :
    fieldOr (find? members name) default read = fieldOr (find? members' name) default read := by
  rcases h.find?_cases name with ⟨hnone, hnone'⟩ | ⟨found, found', hfound, hfound', halike⟩
  · rw [hnone, hnone']
  · rw [hfound, hfound']
    exact hread found found' halike

theorem MembersAlike.outcome?_eq (h : MembersAlike path members members') (leaf : Leaf)
    {name : String} (hpath : path ++ [name] = leaf.path) :
    leaf.outcome? (find? members name) = leaf.outcome? (find? members' name) := by
  refine h.fieldOr_eq (fun value value' halike => ?_) _
  rw [hpath] at halike
  exact halike.convert_eq

theorem MembersAlike.endpointPaths_eq (h : MembersAlike ["endpoints"] members members') :
    EndpointPaths.ofTree? (table members) = EndpointPaths.ofTree? (table members') := by
  ext paths
  rw [endpointPaths_ofTree?_eq_some_iff, endpointPaths_ofTree?_eq_some_iff,
    h.outcome?_eq .runParamsScript rfl, h.outcome?_eq .ashxpOptionsScript rfl,
    h.outcome?_eq .mapOptionsScript rfl, h.outcome?_eq .placeholderImage rfl]

theorem MembersAlike.windowFeatures_eq (h : MembersAlike ["help_window"] members members') :
    WindowFeatures.ofTree? (table members) = WindowFeatures.ofTree? (table members') := by
  ext features
  rw [windowFeatures_ofTree?_eq_some_iff, windowFeatures_ofTree?_eq_some_iff,
    h.outcome?_eq .toolbar rfl, h.outcome?_eq .width rfl, h.outcome?_eq .height rfl,
    h.outcome?_eq .scrollbars rfl]

/-- A group is read off its members; anything else than a table is the same in both trees. -/
theorem AlikeAt.group_eq {α : Type} {group : String} (hgroup : Counts [group])
    {read : SettingsTree → Option α} (hread : ∀ members members',
      MembersAlike [group] members members' → read (table members) = read (table members'))
    {value value' : SettingsTree} (h : AlikeAt [group] value value') :
    read value = read value' := by
  cases h with
  | refl => rfl
  | idle hidle => exact absurd hgroup hidle
  | tables hlength hsome halike => exact hread _ _ ⟨hlength, hsome, halike⟩

theorem MembersAlike.settings_eq (h : MembersAlike [] members members') :
    ofTree? (table members) = ofTree? (table members') := by
  have hpaths : fieldOr (find? members "endpoints") {} EndpointPaths.ofTree? =
      fieldOr (find? members' "endpoints") {} EndpointPaths.ofTree? :=
    h.fieldOr_eq (fun _ _ => AlikeAt.group_eq (by decide) fun _ _ => endpointPaths_eq) _
  have hwindow : fieldOr (find? members "help_window") .help WindowFeatures.ofTree? =
      fieldOr (find? members' "help_window") .help WindowFeatures.ofTree? :=
    h.fieldOr_eq (fun _ _ => AlikeAt.group_eq (by decide) fun _ _ => windowFeatures_eq) _
  have hread (members : Members) : ofTree? (table members) = do
      let endpoints ← fieldOr (find? members "endpoints") {} EndpointPaths.ofTree?
      let form ← Leaf.runParamsForm.outcome? (find? members "run_params_form")
      let name ← Leaf.helpWindowName.outcome? (find? members "help_window_name")
      let features ← fieldOr (find? members "help_window") .help WindowFeatures.ofTree?
      let list ← Leaf.volcanoList.outcome? (find? members "volcano_list")
      let area ← Leaf.defaultArea.outcome? (find? members "default_area")
      let check ← Leaf.eruptionDateCheck.outcome? (find? members "eruption_date_check")
      let normalize ←
        Leaf.normalizeEruptionDates.outcome? (find? members "normalize_eruption_dates")
      return ⟨endpoints, form, name, features, list, area, check, normalize⟩ := rfl
  rw [hread, hread, hpaths, hwindow, h.outcome?_eq .runParamsForm rfl,
    h.outcome?_eq .helpWindowName rfl, h.outcome?_eq .volcanoList rfl,
    h.outcome?_eq .defaultArea rfl, h.outcome?_eq .eruptionDateCheck rfl,
    h.outcome?_eq .normalizeEruptionDates rfl]

end

/-- Trees that say the same yield the same settings. -/
theorem AlikeAt.ofTree?_eq {tree tree' : SettingsTree} (h : AlikeAt [] tree tree') :
    ofTree? tree = ofTree? tree' := by
  cases h with
  | refl => rfl
  | idle hidle => exact absurd (by decide) hidle
  | tables hlength hsome halike =>
    exact MembersAlike.settings_eq ⟨hlength, hsome, halike⟩

/-! ## Layers in another order -/

/-- Keys that stand clear of each other may be laid in any order. -/
theorem ofTree?_layKeys_perm {keys keys' : Members} (hperm : keys.Perm keys')
    (hvalues : ∀ m ∈ keys, m.2.isTable = false)
    (hclear : keys.Pairwise ClearKeys) (tree : SettingsTree) :
    ofTree? (layKeys tree keys) = ofTree? (layKeys tree keys') := by
  induction hperm generalizing tree with
  | nil => rfl
  | cons m hperm ih =>
    rw [layKeys_cons, layKeys_cons]
    exact ih (List.forall_mem_cons.1 hvalues).2 (List.pairwise_cons.1 hclear).2 _
  | swap m m' keys =>
    obtain ⟨hvalue', hvalue, hrest⟩ : m'.2.isTable = false ∧ m.2.isTable = false ∧
        ∀ m ∈ keys, m.2.isTable = false := by simpa using hvalues
    have hpair := (List.pairwise_cons.1 hclear).1 m List.mem_cons_self
    rw [layKeys_cons, layKeys_cons, layKeys_cons, layKeys_cons]
    refine AlikeAt.ofTree?_eq (AlikeAt.layKeys hrest ?_)
    refine alikeAt_layAt_layAt hvalue hvalue' (stem_placeOf_ne_nil m.1) (stem_placeOf_ne_nil m'.1)
      ?_ tree
    rw [List.nil_append, List.nil_append]
    exact hpair.symm
  | trans hperm _ ih ih' =>
    rw [ih hvalues hclear]
    refine ih' (fun m hm => hvalues m (hperm.mem_iff.2 hm)) ?_ tree
    exact (hperm.pairwise_iff Clear.symm).1 hclear

/-- The variables of an environment stand clear of each other. -/
def VariablesClear (env : Environment) : Prop :=
  env.keys.Pairwise ClearKeys

instance (env : Environment) : Decidable (VariablesClear env) :=
  inferInstanceAs (Decidable (env.keys.Pairwise ClearKeys))

/-- The paths of two choices are apart. -/
theorem Leaf.apart_path : ∀ leaf leaf' : Leaf, leaf ≠ leaf' → Apart leaf.path leaf'.path := by
  decide +kernel

theorem apart_of_not_counts {path : List String} (h : ¬ Counts path) (leaf : Leaf) :
    Apart leaf.path path :=
  ⟨fun hleads => h ⟨leaf, leaf.mem_all, .inr hleads⟩,
    fun hleads => h ⟨leaf, leaf.mem_all, .inl hleads⟩⟩

/-- What a variable of a plain environment sets: a choice, or what none has to do with. -/
theorem PlainVariables.stem_or_not_counts {env : Environment} (h : PlainVariables env)
    {v : String × String} (hv : v ∈ env) {key : String} (hkey : Environment.keyOf? v.1 = some key) :
    (∃ leaf : Leaf, smallName v.1 = leaf.variableName ∧ stem (placeOf key) = leaf.path) ∨
      ¬ Counts (stem (placeOf key)) := by
  obtain ⟨first, names, hplace, hsmall, hself, hapart, -⟩ := h.exists_path hv hkey
  rw [hplace, stem_named hsmall]
  by_cases hname : ∃ leaf : Leaf, smallName v.1 = leaf.variableName
  · obtain ⟨leaf, hleaf⟩ := hname
    exact .inl ⟨leaf, hleaf, hself leaf hleaf⟩
  · refine .inr ?_
    rintro ⟨leaf, -, hcounts⟩
    have haway := hapart leaf fun heq => hname ⟨leaf, heq⟩
    exact hcounts.elim haway.1 haway.2

/-- Plain variables stand clear of each other. -/
theorem PlainVariables.clear {env : Environment} (h : PlainVariables env) : VariablesClear env := by
  refine List.pairwise_filterMap.2 (h.distinct.imp_of_mem ?_)
  intro v w hv hw hne m hm m' hm'
  obtain ⟨key, hkey, rfl⟩ := Option.map_eq_some_iff.1 hm
  obtain ⟨key', hkey', rfl⟩ := Option.map_eq_some_iff.1 hm'
  rcases h.stem_or_not_counts hv hkey with ⟨leaf, hname, hstem⟩ | hidle
  · rcases h.stem_or_not_counts hw hkey' with ⟨leaf', hname', hstem'⟩ | hidle'
    · refine .inl ?_
      rw [hstem, hstem']
      refine leaf.apart_path leaf' ?_
      rintro rfl
      exact hne (Option.isSome_of_eq_some hkey) (hname.trans hname'.symm)
    · refine .inl ?_
      rw [hstem]
      exact apart_of_not_counts hidle' leaf
  · rcases h.stem_or_not_counts hw hkey' with ⟨leaf', hname', hstem'⟩ | hidle'
    · refine .inl ?_
      rw [hstem']
      exact (apart_of_not_counts hidle leaf').symm
    · exact .inr ⟨hidle, hidle'⟩

end Settings

end PlumeForm
