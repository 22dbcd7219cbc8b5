import PlumeForm.Proofs.Settings.Names

/-!
# What laying a value over a tree changes

A value that is laid at a place changes one member of the tree, the one that the place begins with
(`find?_layAt_of_ne`), and what becomes of that member depends on it alone (`find?_layAt_congr`).
Along a path of names, what is laid is found again (`lookup?_layAt_self`), and what stands apart
from it is found as before (`lookup?_layAt_of_apart`). A table with distinct names that is laid over
an empty one is the same table with small names (`layAll_of_distinct`).
-/

namespace PlumeForm.SettingsTree

/-! ## Members -/

theorem put_of_find?_eq_none {members : Members} {name : String} (value : SettingsTree)
    (h : find? members name = none) : put members name value = members ++ [(name, value)] := by
  induction members with
  | nil => rfl
  | cons m ms ih =>
    rw [find?_cons] at h
    by_cases hm : m.1 = name
    · rw [if_pos hm] at h
      cases h
    · rw [if_neg hm] at h
      rw [put, if_neg hm, ih h]
      rfl

/-- The tree is a table. -/
def isTable : SettingsTree → Bool
  | table _ => true
  | _ => false

theorem isTable_iff {tree : SettingsTree} :
    tree.isTable = true ↔ ∃ members, tree = table members := by
  cases tree <;> simp [isTable]

@[simp] theorem membersOf_table (members : Members) : membersOf (table members) = members := rfl

/-- Anything but a table takes the place of what was there. -/
theorem lay_of_not_isTable (members : Members) (name : String) {value : SettingsTree}
    (h : value.isTable = false) : lay members name value = put members (smallName name) value := by
  rw [lay]
  intro incoming htable
  rw [htable] at h
  cases h

/-- What a name that is laid stands for is put under its small form. -/
theorem lay_eq_put (members : Members) (name : String) (value : SettingsTree) :
    ∃ laid, lay members name value = put members (smallName name) laid := by
  cases htable : value.isTable with
  | true =>
    obtain ⟨incoming, rfl⟩ := isTable_iff.1 htable
    exact ⟨_, by rw [lay]⟩
  | false => exact ⟨value, lay_of_not_isTable members name htable⟩

theorem lay_smallName (members : Members) (name : String) (value : SettingsTree) :
    lay members (smallName name) value = lay members name value := by
  cases value <;> simp only [lay, smallName_smallName]

/-! ## Places -/

/-- The member of a table that a place begins with. -/
def head? : List Step → Option String
  | [.name name] => some (smallName name)
  | .name name :: _ => some name
  | _ => none

/-- Other members than the one that the place begins with stay. -/
theorem find?_layAt_of_ne {value tree : SettingsTree} {place : List Step} {name other : String}
    (hplace : head? place = some name) (h : name ≠ other) :
    find? (membersOf (layAt value place tree)) other = find? (membersOf tree) other := by
  match place with
  | [] => cases hplace
  | .item index :: rest => cases hplace
  | [.name n] =>
    cases hplace
    obtain ⟨laid, hlay⟩ := lay_eq_put (membersOf tree) n value
    rw [layAt, membersOf_table, hlay, find?_put, if_neg h]
  | .name n :: step :: rest =>
    cases hplace
    rw [layAt, membersOf_table, find?_put, if_neg h]
    exact List.cons_ne_nil step rest

/-- What becomes of the member that the place begins with depends on that member alone. -/
theorem find?_layAt_congr {value tree tree' : SettingsTree} {place : List Step} {name : String}
    (hplace : head? place = some name)
    (h : find? (membersOf tree) name = find? (membersOf tree') name) :
    find? (membersOf (layAt value place tree)) name =
      find? (membersOf (layAt value place tree')) name := by
  match place with
  | [] => cases hplace
  | .item index :: rest => cases hplace
  | [.name n] =>
    cases hplace
    cases value <;> simp only [layAt, membersOf_table, lay, find?_put, if_true, h]
  | .name n :: step :: rest =>
    cases hplace
    simp only [layAt, membersOf_table, find?_put, if_true, h]

/-- The place of a key begins with a member. -/
theorem exists_head?_placeOf (key : String) : ∃ name, head? (placeOf key) = some name := by
  have hhead : ∀ name rest, ∃ found, head? (.name name :: rest) = some found := by
    intro name rest
    cases rest with
    | nil => exact ⟨smallName name, rfl⟩
    | cons step rest => exact ⟨name, rfl⟩
  unfold placeOf
  cases hplace : readPlace? (smallName key) with
  | none => exact hhead key []
  | some steps =>
    unfold readPlace? at hplace
    split at hplace
    · obtain ⟨rest, -, rfl⟩ := Option.map_eq_some_iff.1 hplace
      exact hhead _ rest
    · cases hplace

theorem isTable_layAt {value : SettingsTree} {place : List Step} {name : String}
    (h : head? place = some name) (tree : SettingsTree) :
    (layAt value place tree).isTable = true := by
  match place with
  | [] => cases h
  | .item index :: rest => cases h
  | [.name n] =>
    rw [layAt]
    rfl
  | .name n :: step :: rest =>
    rw [layAt]
    · rfl
    · exact List.cons_ne_nil step rest

/-! ## Layers -/

/-- A layer of keys sets a member, or something inside of it. -/
def Sets (keys : Members) (name : String) : Prop :=
  ∃ m ∈ keys, head? (placeOf m.1) = some name

instance (keys : Members) (name : String) : Decidable (Sets keys name) :=
  inferInstanceAs (Decidable (∃ m ∈ keys, head? (placeOf m.1) = some name))

theorem layKeys_cons (tree : SettingsTree) (m : String × SettingsTree) (keys : Members) :
    layKeys tree (m :: keys) = layKeys (layAt m.2 (placeOf m.1) tree) keys := by
  rw [layKeys, List.foldl_cons, layKeys]

theorem layKeys_append (tree : SettingsTree) (keys more : Members) :
    layKeys tree (keys ++ more) = layKeys (layKeys tree keys) more :=
  List.foldl_append

theorem isTable_layKeys (keys : Members) {tree : SettingsTree} (h : tree.isTable = true) :
    (layKeys tree keys).isTable = true := by
  induction keys generalizing tree with
  | nil => exact h
  | cons m keys ih =>
    obtain ⟨name, hname⟩ := exists_head?_placeOf m.1
    rw [layKeys_cons]
    exact ih (isTable_layAt hname tree)

/-- A member that a layer does not set stays. -/
theorem find?_layKeys_of_not_sets {keys : Members} {name : String} (h : ¬ Sets keys name)
    (tree : SettingsTree) :
    find? (membersOf (layKeys tree keys)) name = find? (membersOf tree) name := by
  induction keys generalizing tree with
  | nil => rfl
  | cons m keys ih =>
    obtain ⟨first, hfirst⟩ := exists_head?_placeOf m.1
    have hne : first ≠ name := by
      rintro rfl
      exact h ⟨m, List.mem_cons_self, hfirst⟩
    have hkeys : ¬ Sets keys name := by
      rintro ⟨other, hother, hplace⟩
      exact h ⟨other, List.mem_cons_of_mem m hother, hplace⟩
    rw [layKeys_cons, ih hkeys, find?_layAt_of_ne hfirst hne]

/-- The trees have the same members, but perhaps for one. -/
def AgreeOff (name : String) (tree tree' : SettingsTree) : Prop :=
  ∀ other, other ≠ name → find? (membersOf tree) other = find? (membersOf tree') other

theorem AgreeOff.layAt {name first : String} {tree tree' : SettingsTree}
    (h : AgreeOff name tree tree') (value : SettingsTree) {place : List Step}
    (hplace : head? place = some first) :
    AgreeOff name (layAt value place tree) (layAt value place tree') := by
  intro other hother
  by_cases hfirst : first = other
  · subst hfirst
    exact find?_layAt_congr hplace (h first hother)
  · rw [find?_layAt_of_ne hplace hfirst, find?_layAt_of_ne hplace hfirst]
    exact h other hother

/-- A value that is laid at a place changes nothing but the member that the place begins with. -/
theorem agreeOff_layAt (value : SettingsTree) {place : List Step} {name : String}
    (hplace : head? place = some name) (tree : SettingsTree) :
    AgreeOff name (SettingsTree.layAt value place tree) tree :=
  fun _ hother => find?_layAt_of_ne hplace hother.symm

/-- A layer keeps the agreement of trees. -/
theorem AgreeOff.layKeys {name : String} {tree tree' : SettingsTree}
    (h : AgreeOff name tree tree') (keys : Members) :
    AgreeOff name (layKeys tree keys) (layKeys tree' keys) := by
  induction keys generalizing tree tree' with
  | nil => exact h
  | cons m keys ih =>
    obtain ⟨first, hfirst⟩ := exists_head?_placeOf m.1
    rw [layKeys_cons, layKeys_cons]
    exact ih (h.layAt m.2 hfirst)

/-! ## Paths -/

/-- What stands in a tree at a path of names. -/
def lookup? : SettingsTree → List String → Option SettingsTree
  | tree, [] => some tree
  | tree, name :: path => (find? (membersOf tree) name).bind (lookup? · path)

theorem lookup?_cons (tree : SettingsTree) (name : String) (path : List String) :
    lookup? tree (name :: path) = (find? (membersOf tree) name).bind (lookup? · path) := rfl

theorem lookup?_singleton (tree : SettingsTree) (name : String) :
    lookup? tree [name] = find? (membersOf tree) name := Option.bind_fun_some _

/-- Neither of the paths leads on from the other. -/
def Apart (p q : List String) : Prop := ¬ p <+: q ∧ ¬ q <+: p

instance (p q : List String) : Decidable (Apart p q) :=
  inferInstanceAs (Decidable (¬ p <+: q ∧ ¬ q <+: p))

/-- Paths that begin with the same name are apart behind it. -/
theorem Apart.of_cons {name : String} {p q : List String} (h : Apart (name :: p) (name :: q)) :
    Apart p q := by
  constructor
  · exact fun hleads => h.1 (List.cons_prefix_cons.2 ⟨rfl, hleads⟩)
  · exact fun hleads => h.2 (List.cons_prefix_cons.2 ⟨rfl, hleads⟩)

theorem Apart.of_named {path path' : List String}
    (h : ¬ named path <+: named path' ∧ ¬ named path' <+: named path) : Apart path path' :=
  ⟨fun hleads => h.1 (hleads.map Step.name), fun hleads => h.2 (hleads.map Step.name)⟩

theorem head?_named {name : String} (hsmall : smallName name = name) (names : List String) :
    head? (named (name :: names)) = some name := by
  cases names with
  | nil => exact congrArg some hsmall
  | cons next rest => rfl

theorem layAt_named_cons (value : SettingsTree) (name next : String) (rest : List String)
    (tree : SettingsTree) :
    layAt value (named (name :: next :: rest)) tree =
      table (put (membersOf tree) name
        (layAt value (named (next :: rest)) ((find? (membersOf tree) name).getD null))) := by
  change layAt value (.name name :: .name next :: named rest) tree = _
  rw [layAt]
  · rfl
  · exact List.cons_ne_nil _ _

/-- What is laid at a path of small names is found there. -/
theorem lookup?_layAt_self {value : SettingsTree} (hvalue : value.isTable = false) {name : String}
    {names : List String} (hsmall : ∀ n ∈ name :: names, smallName n = n) (tree : SettingsTree) :
    lookup? (layAt value (named (name :: names)) tree) (name :: names) = some value := by
  induction names generalizing name tree with
  | nil =>
    have hname : smallName name = name := hsmall name List.mem_cons_self
    change lookup? (layAt value [.name name] tree) [name] = some value
    rw [layAt, lay_of_not_isTable _ _ hvalue, hname, lookup?_cons, membersOf_table, find?_put,
      if_pos rfl]
    rfl
  | cons next rest ih =>
    rw [layAt_named_cons, lookup?_cons, membersOf_table, find?_put, if_pos rfl, Option.bind_some]
    exact ih (fun n hn => hsmall n (List.mem_cons_of_mem name hn)) _

/-- What stands apart from a path of small names is found as before when something is laid there. -/
theorem lookup?_layAt_of_apart {value : SettingsTree} {name : String} {names path : List String}
    (hsmall : ∀ n ∈ name :: names, smallName n = n) (hapart : Apart (name :: names) path)
    (tree : SettingsTree) :
    lookup? (layAt value (named (name :: names)) tree) path = lookup? tree path := by
  induction names generalizing name path tree with
  | nil =>
    cases path with
    | nil => exact absurd List.nil_prefix hapart.2
    | cons first path =>
      have hne : name ≠ first := by
        rintro rfl
        exact hapart.1 ⟨path, rfl⟩
      have hhead := head?_named (hsmall name List.mem_cons_self) []
      rw [lookup?_cons, lookup?_cons, find?_layAt_of_ne hhead hne]
  | cons next rest ih =>
    cases path with
    | nil => exact absurd List.nil_prefix hapart.2
    | cons first path =>
      by_cases hne : name = first
      · subst hne
        have hrest : Apart (next :: rest) path := hapart.of_cons
        have hlaid := ih (fun n hn => hsmall n (List.mem_cons_of_mem name hn)) hrest
        rw [layAt_named_cons, lookup?_cons, lookup?_cons, membersOf_table, find?_put, if_pos rfl,
          Option.bind_some, hlaid]
        cases hfound : find? (membersOf tree) name with
        | some found => rfl
        | none =>
          -- There was nothing, and nothing is found behind it, as the path goes on.
          cases path with
          | nil => exact absurd List.nil_prefix hrest.2
          | cons second path => rfl
      · have hhead := head?_named (hsmall name List.mem_cons_self) (next :: rest)
        rw [lookup?_cons, lookup?_cons, find?_layAt_of_ne hhead hne]

/-! ## Tables with distinct names -/

/-- The table that comes of a table when it is laid over nothing; anything else stays. -/
def settle : SettingsTree → SettingsTree
  | table members => layAll (table []) members
  | tree => tree

theorem settle_of_not_isTable {tree : SettingsTree} (h : tree.isTable = false) :
    tree.settle = tree := by
  cases tree with
  | table members => cases h
  | _ => rfl

/-- No two of the names are the same but for case. -/
def NamesDistinct (members : Members) : Prop :=
  (members.map fun m => smallName m.1).Nodup

/-- The members with small names, each settled. -/
def settled (members : Members) : Members :=
  members.map fun m => (smallName m.1, m.2.settle)

/-- Where its name is new, a value is laid as it settles. -/
theorem lay_of_find?_eq_none {members : Members} {name : String} (value : SettingsTree)
    (h : find? members (smallName name) = none) :
    lay members name value = members ++ [(smallName name, value.settle)] := by
  cases htable : value.isTable with
  | true =>
    obtain ⟨incoming, rfl⟩ := isTable_iff.1 htable
    rw [lay, h, Option.getD_none, put_of_find?_eq_none _ h, settle]
  | false =>
    rw [lay_of_not_isTable _ _ htable, put_of_find?_eq_none _ h, settle_of_not_isTable htable]

theorem find?_append (members more : Members) (name : String) :
    find? (members ++ more) name = (find? members name).or (find? more name) := by
  unfold find?
  rw [List.find?_append]
  cases members.find? fun m => m.1 == name <;> rfl

/-- New and distinct names come behind the members that are there. -/
theorem layAll_of_distinct {members incoming : Members} (hdistinct : NamesDistinct incoming)
    (hnew : ∀ m ∈ incoming, find? members (smallName m.1) = none) :
    layAll (table members) incoming = table (members ++ settled incoming) := by
  induction incoming generalizing members with
  | nil =>
    rw [layAll]
    exact congrArg table (List.append_nil members).symm
  | cons m rest ih =>
    obtain ⟨name, value⟩ := m
    obtain ⟨hname, hrest⟩ := List.nodup_cons.1 hdistinct
    rw [List.forall_mem_cons] at hnew
    have hnewRest : ∀ m ∈ rest,
        find? (members ++ [(smallName name, value.settle)]) (smallName m.1) = none := by
      intro m hm
      have hne : smallName name ≠ smallName m.1 := by
        intro heq
        exact hname (List.mem_map.2 ⟨m, hm, heq.symm⟩)
      rw [find?_append, hnew.2 m hm, find?_cons, if_neg hne]
      rfl
    rw [layAll, membersOf, lay_of_find?_eq_none value hnew.1, ih hrest hnewRest, List.append_assoc]
    rfl

theorem settle_table {members : Members} (h : NamesDistinct members) :
    (table members).settle = table (settled members) :=
  layAll_of_distinct h fun _ _ => rfl

/-- What a name stands for, whatever its case. -/
def findCaseless? (members : Members) (name : String) : Option SettingsTree :=
  (members.find? fun m => smallName m.1 == name).map (·.2)

theorem find?_settled (members : Members) (name : String) :
    find? (settled members) name = (findCaseless? members name).map settle := by
  unfold find? settled findCaseless?
  rw [List.find?_map, Option.map_map, Option.map_map]
  rfl

/-- No table has the same name twice, but for case. -/
inductive WellNamed : SettingsTree → Prop where
  | table {members : Members} (distinct : NamesDistinct members)
      (inner : ∀ m ∈ members, WellNamed m.2) : WellNamed (table members)
  | other {tree : SettingsTree} (h : tree.isTable = false) : WellNamed tree

theorem WellNamed.settle_eq {members : Members} (h : WellNamed (.table members)) :
    (SettingsTree.table members).settle = .table (settled members) := by
  cases h with
  | table distinct inner => exact settle_table distinct
  | other h => cases h

/-- What stands in a tree at a path, whatever the case of its names. -/
def lookupCaseless? : SettingsTree → List String → Option SettingsTree
  | tree, [] => some tree
  | tree, name :: path => (findCaseless? (membersOf tree) name).bind (lookupCaseless? · path)

theorem WellNamed.of_findCaseless? {tree found : SettingsTree} (h : WellNamed tree) {name : String}
    (hfound : findCaseless? (membersOf tree) name = some found) : WellNamed found := by
  cases h with
  | table distinct inner =>
    obtain ⟨m, hm, rfl⟩ := Option.map_eq_some_iff.1 hfound
    exact inner m (List.mem_of_find?_eq_some hm)
  | other h =>
    cases tree with
    | table members => cases h
    | _ => cases hfound

theorem WellNamed.of_lookupCaseless? {tree found : SettingsTree} (h : WellNamed tree)
    {path : List String} (hfound : lookupCaseless? tree path = some found) : WellNamed found := by
  induction path generalizing tree with
  | nil =>
    cases hfound
    exact h
  | cons name path ih =>
    obtain ⟨member, hmember, hrest⟩ := Option.bind_eq_some_iff.1 hfound
    exact ih (h.of_findCaseless? hmember) hrest

/-- What stands in a settled tree. -/
theorem WellNamed.lookup?_settle {tree : SettingsTree} (h : WellNamed tree) (path : List String) :
    lookup? tree.settle path = (lookupCaseless? tree path).map settle := by
  induction path generalizing tree with
  | nil => rfl
  | cons name path ih =>
    have hmember : find? (membersOf tree.settle) name =
        (findCaseless? (membersOf tree) name).map settle := by
      cases tree with
      | table members => rw [h.settle_eq, membersOf_table, find?_settled, membersOf_table]
      | _ => rfl
    rw [lookup?_cons, hmember, lookupCaseless?]
    cases hfound : findCaseless? (membersOf tree) name with
    | none => rfl
    | some found => exact ih (h.of_findCaseless? hfound)

/-- A layer of plain keys is laid like the members of a table. -/
theorem layKeys_eq_layAll {keys : Members}
    (h : ∀ m ∈ keys, m.1 ≠ "" ∧ m.1.toList.all isNameChar = true) (tree : SettingsTree) :
    layKeys tree keys = layAll tree keys := by
  induction keys generalizing tree with
  | nil =>
    rw [layAll]
    rfl
  | cons m keys ih =>
    rw [List.forall_mem_cons] at h
    obtain ⟨name, value⟩ := m
    have hplace := placeOf_of_all h.1.1 (List.all_eq_true.1 h.1.2)
    rw [layKeys_cons, hplace, layAt, lay_smallName, ih h.2, layAll]

end PlumeForm.SettingsTree
