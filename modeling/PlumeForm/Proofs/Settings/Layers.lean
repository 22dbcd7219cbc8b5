import PlumeForm.Proofs.Settings.Leaves
import PlumeForm.Proofs.Settings.Source
import Mathlib

/-!
# Settings in layers

Settings are layered choice by choice. A variable that names a choice beats the file, the file beats
the default, and no choice depends on another one (`load_layered`). The tree of all layers, which
the program builds and reads, is compared with what the layers say of one choice: for the file by
`lookup?_file`, for the environment by induction on its variables (`lookup?_layKeys_keys`).
-/

namespace PlumeForm.Settings

open SettingsTree

/-! ## The names of variables -/

/-- The name of the variable that sets what a path leads to, in small letters. -/
def nameFor (path : List String) : List Char :=
  "webpuff".toList ++ Environment.hidePoints (dotted path)

namespace Leaf

/-- The name of the variable that sets the choice, in small letters. -/
def variableName (leaf : Leaf) : String :=
  Environment.front ++ "__".intercalate leaf.path

/-- What the environment sets the choice to; the case of names does not count. -/
def assigned? (leaf : Leaf) (env : Environment) : Option SettingsTree :=
  (env.find? fun v => smallName v.1 == leaf.variableName).map fun v => Environment.treeOf v.2

/-- How the variable of a choice is spelled, and the key that it has. -/
theorem spelling (leaf : Leaf) :
    smallName leaf.variableName = leaf.variableName ∧
      leaf.variableName.toList = nameFor leaf.path ∧
      Environment.keyOf? leaf.variableName = some (".".intercalate leaf.path) ∧
      placeOf (".".intercalate leaf.path) = named leaf.path := by
  cases leaf <;> decide +kernel

theorem toList_variableName (leaf : Leaf) : leaf.variableName.toList = nameFor leaf.path :=
  leaf.spelling.2.1

theorem placeOf_path (leaf : Leaf) : placeOf (".".intercalate leaf.path) = named leaf.path :=
  leaf.spelling.2.2.2

/-- A variable with the name of the choice's variable has its key. -/
theorem keyOf?_of_smallName_eq {leaf : Leaf} {name : String}
    (h : smallName name = leaf.variableName) :
    Environment.keyOf? name = some (".".intercalate leaf.path) := by
  obtain ⟨hsmall, -, hkey, -⟩ := leaf.spelling
  exact (Environment.keyOf?_congr (h.trans hsmall.symm)).trans hkey

end Leaf

/-- The variables of an environment set choices, or what has nothing to do with them: their names
have no points and no brackets, no two of them are the same but for case, and each goes to the place
of a choice or neither leads to one nor on from one. -/
structure PlainVariables (env : Environment) : Prop where
  characters : ∀ v ∈ env,
    (Environment.keyOf? v.1).isSome → '.' ∉ v.1.toList ∧ '[' ∉ v.1.toList
  distinct : env.Pairwise fun v w =>
    (Environment.keyOf? v.1).isSome → smallName v.1 ≠ smallName w.1
  places : ∀ v ∈ env, ∀ key ∈ Environment.keyOf? v.1, ∀ leaf : Leaf,
    placeOf key = named leaf.path ∨
      ¬ placeOf key <+: named leaf.path ∧ ¬ named leaf.path <+: placeOf key

theorem PlainVariables.of_cons {v : String × String} {env : Environment}
    (h : PlainVariables (v :: env)) : PlainVariables env where
  characters w hw := h.characters w (List.mem_cons_of_mem v hw)
  distinct := (List.pairwise_cons.1 h.distinct).2
  places w hw := h.places w (List.mem_cons_of_mem v hw)

/-- A group leads to a choice. -/
theorem exists_leaf_of_group :
    ∀ group ∈ groups, ∃ leaf ∈ Leaf.all, leaf.path ≠ [group] ∧ [group] <+: leaf.path := by
  decide

/-- Where a variable of a plain environment goes: to a choice if it has the name of its variable,
and apart from it otherwise. -/
theorem PlainVariables.exists_path {env : Environment} (h : PlainVariables env)
    {v : String × String} (hv : v ∈ env) {key : String} (hkey : Environment.keyOf? v.1 = some key) :
    ∃ first names, placeOf key = named (first :: names) ∧
      (∀ n ∈ first :: names, smallName n = n) ∧
      (∀ leaf : Leaf, smallName v.1 = leaf.variableName → first :: names = leaf.path) ∧
      (∀ leaf : Leaf, smallName v.1 ≠ leaf.variableName → Apart (first :: names) leaf.path) ∧
      ∀ group ∈ groups, first :: names ≠ [group] := by
  obtain ⟨first, names, hplace, hsmall, hspelled⟩ := Environment.names_of_keyOf? hkey
    (h.characters v hv (Option.isSome_of_eq_some hkey))
  have hname : (smallName v.1).toList = nameFor (first :: names) := hspelled
  have hplaces := h.places v hv key hkey
  rw [hplace] at hplaces
  refine ⟨first, names, hplace, hsmall, fun leaf heq => ?_, fun leaf hne => ?_, ?_⟩
  · cases hkey.symm.trans (Leaf.keyOf?_of_smallName_eq heq)
    exact named_inj.1 (hplace.symm.trans leaf.placeOf_path)
  · rcases hplaces leaf with heq | hapart
    · refine absurd (String.toList_inj.1 ?_) hne
      rw [hname, named_inj.1 heq, leaf.toList_variableName]
    · exact Apart.of_named hapart
  · intro group hgroup heq
    obtain ⟨leaf, -, hne, hleads⟩ := exists_leaf_of_group group hgroup
    rw [heq] at hplaces
    rcases hplaces leaf with hpath | ⟨hnot, -⟩
    · exact hne (named_inj.1 hpath).symm
    · exact hnot (hleads.map Step.name)

/-! ## The layer of the environment -/

theorem isTable_treeOf (value : String) : (Environment.treeOf value).isTable = false := by
  unfold Environment.treeOf
  dsimp only
  split
  · rfl
  · split
    · rfl
    · split
      · rfl
      · split <;> rfl

theorem Leaf.assigned?_cons (leaf : Leaf) (v : String × String) (env : Environment) :
    leaf.assigned? (v :: env) =
      if smallName v.1 = leaf.variableName then some (Environment.treeOf v.2)
      else leaf.assigned? env := by
  unfold assigned?
  rw [List.find?_cons]
  by_cases h : smallName v.1 = leaf.variableName
  · rw [if_pos h, beq_iff_eq.2 h]
    rfl
  · rw [if_neg h, beq_eq_false_iff_ne.2 h]

/-- What the environment sets a choice to stands in the tree with its layer, and else what stood
there before. -/
theorem lookup?_layKeys_keys {env : Environment} (h : PlainVariables env) (leaf : Leaf)
    (tree : SettingsTree) :
    lookup? (layKeys tree env.keys) leaf.path =
      (leaf.assigned? env).or (lookup? tree leaf.path) := by
  induction env generalizing tree with
  | nil => rfl
  | cons v env ih =>
    rw [leaf.assigned?_cons]
    cases hkey : Environment.keyOf? v.1 with
    | none =>
      have hne : smallName v.1 ≠ leaf.variableName := by
        intro heq
        cases hkey.symm.trans (Leaf.keyOf?_of_smallName_eq heq)
      rw [Environment.keys_cons_of_none v hkey, if_neg hne, ih h.of_cons]
    | some key =>
      obtain ⟨first, names, hplace, hsmall, hself, hapart, -⟩ :=
        h.exists_path List.mem_cons_self hkey
      rw [Environment.keys_cons_of_some v hkey, layKeys_cons, ih h.of_cons, hplace]
      by_cases hname : smallName v.1 = leaf.variableName
      · -- No later variable has the name again.
        have hlater : leaf.assigned? env = none := by
          rw [Leaf.assigned?, Option.map_eq_none_iff, List.find?_eq_none]
          intro w hw hbeq
          have hne := (List.pairwise_cons.1 h.distinct).1 w hw (Option.isSome_of_eq_some hkey)
          exact hne (hname.trans (beq_iff_eq.1 hbeq).symm)
        rw [hlater, if_pos hname, ← hself leaf hname,
          lookup?_layAt_self (isTable_treeOf v.2) hsmall]
        rfl
      · rw [if_neg hname, lookup?_layAt_of_apart hsmall (hapart leaf hname)]

/-- The environment leaves the groups tables. -/
theorem groupsAreTables_layKeys_keys {env : Environment} (h : PlainVariables env)
    {tree : SettingsTree} (htree : GroupsAreTables tree) :
    GroupsAreTables (layKeys tree env.keys) := by
  induction env generalizing tree with
  | nil => exact htree
  | cons v env ih =>
    cases hkey : Environment.keyOf? v.1 with
    | none =>
      rw [Environment.keys_cons_of_none v hkey]
      exact ih h.of_cons htree
    | some key =>
      obtain ⟨first, names, hplace, hsmall, -, -, hgroup⟩ := h.exists_path List.mem_cons_self hkey
      rw [Environment.keys_cons_of_some v hkey, layKeys_cons, hplace]
      refine ih h.of_cons fun group hmem found hfound => ?_
      by_cases hfirst : first = group
      · subst hfirst
        cases names with
        | nil => exact absurd rfl (hgroup first hmem)
        | cons next rest =>
          rw [layAt_named_cons, membersOf_table, find?_put, if_pos rfl] at hfound
          cases hfound
          exact isTable_layAt (head?_named (hsmall next (by simp)) rest) _
      · have hhead := head?_named (hsmall first List.mem_cons_self) names
        rw [find?_layAt_of_ne hhead hfirst] at hfound
        exact htree group hmem found hfound

/-! ## The layer of the file -/

/-- The keys of a file are plain names, none of its tables has a name twice but for case, and it has
nothing but tables for the groups. -/
structure PlainFile (file : Members) : Prop where
  keys : ∀ m ∈ file, m.1 ≠ "" ∧ m.1.toList.all isNameChar = true
  wellNamed : WellNamed (table file)
  tables : ∀ group ∈ groups, ∀ found, findCaseless? file group = some found → found.isTable = true

theorem lookup?_file {file : Members} (h : PlainFile file) (path : List String) :
    lookup? (layKeys (table []) file) path =
      (lookupCaseless? (table file) path).map SettingsTree.settle := by
  rw [layKeys_eq_layAll h.keys]
  exact h.wellNamed.lookup?_settle path

theorem groupsAreTables_file {file : Members} (h : PlainFile file) :
    GroupsAreTables (layKeys (table []) file) := by
  intro group hmem found hfound
  rw [← lookup?_singleton, lookup?_file h] at hfound
  obtain ⟨stated, hstated, rfl⟩ := Option.map_eq_some_iff.1 hfound
  have hmember : findCaseless? file group = some stated :=
    (Option.bind_fun_some _).symm.trans hstated
  obtain ⟨inner, rfl⟩ := isTable_iff.1 (h.tables group hmem stated hmember)
  rw [(h.wellNamed.of_findCaseless? hmember).settle_eq]
  rfl

/-! ## All layers -/

/-- What is chosen in the layers: what a variable says, or else what the file says. -/
def chosen? (file : Members) (env : Environment) (leaf : Leaf) : Option SettingsTree :=
  (leaf.assigned? env).or (lookupCaseless? (table file) leaf.path)

/-- The tree of all layers says of a choice what the layers do. -/
theorem outcome?_layers {file : Members} {env : Environment} (hfile : PlainFile file)
    (henv : PlainVariables env) (leaf : Leaf) :
    leaf.outcome? (lookup? (layers file env) leaf.path) =
      leaf.outcome? (chosen? file env leaf) := by
  rw [layers, lookup?_layKeys_keys henv, lookup?_file hfile, chosen?]
  cases leaf.assigned? env with
  | some value => rfl
  | none =>
    cases hstated : lookupCaseless? (table file) leaf.path with
    | none => rfl
    | some stated => exact convert_settle leaf (hfile.wellNamed.of_lookupCaseless? hstated)

theorem isTable_layers (file : Members) (env : Environment) : (layers file env).isTable = true :=
  isTable_layKeys _ (isTable_layKeys file rfl)

theorem exists_layers_eq_table {file : Members} {env : Environment} (hfile : PlainFile file)
    (henv : PlainVariables env) :
    ∃ members, layers file env = table members ∧ GroupsAreTables (table members) := by
  obtain ⟨members, hmembers⟩ := isTable_iff.1 (isTable_layers file env)
  have hgroups := groupsAreTables_layKeys_keys henv (groupsAreTables_file hfile)
  exact ⟨members, hmembers, hmembers ▸ hgroups⟩

theorem ofTree?_layers_eq_some_iff {file : Members} {env : Environment} (hfile : PlainFile file)
    (henv : PlainVariables env) {settings : Settings} :
    ofTree? (layers file env) = some settings ↔
      ∀ leaf : Leaf, leaf.outcome? (chosen? file env leaf) = some (leaf.get settings) := by
  obtain ⟨members, hmembers, hgroups⟩ := exists_layers_eq_table hfile henv
  have houtcome := outcome?_layers hfile henv
  rw [hmembers] at houtcome ⊢
  simp only [ofTree?_eq_some_iff hgroups, houtcome]

theorem exists_ofTree?_layers_iff {file : Members} {env : Environment} (hfile : PlainFile file)
    (henv : PlainVariables env) :
    (∃ settings, ofTree? (layers file env) = some settings) ↔
      ∀ leaf : Leaf, (leaf.outcome? (chosen? file env leaf)).isSome = true := by
  obtain ⟨members, hmembers, hgroups⟩ := exists_layers_eq_table hfile henv
  have houtcome := outcome?_layers hfile henv
  rw [hmembers] at houtcome ⊢
  simp only [exists_ofTree?_iff hgroups, houtcome]

theorem load_of_fileKeys_error {files : Files} {path : String} {e : SettingsError}
    (h : fileKeys files path = .error e) (env : Environment) : load files env path = .error e := by
  rw [load, h]

theorem load_of_fileKeys_ok {files : Files} {path : String} {file : Members}
    (h : fileKeys files path = .ok file) (env : Environment) :
    load files env path =
      (ofTree? (layers file env)).elim (.error .invalid)
        fun settings => .ok (settings.withFallback (fallbackList env)) := by
  rw [load, h]
  dsimp only
  cases ofTree? (layers file env) with
  | none => rfl
  | some settings => rfl

theorem load_eq_ok_iff {files : Files} {env : Environment} {path : String} {file : Members}
    (hread : fileKeys files path = .ok file) {settings : Settings} :
    load files env path = .ok settings ↔
      ∃ base, ofTree? (layers file env) = some base ∧
        base.withFallback (fallbackList env) = settings := by
  rw [load_of_fileKeys_ok hread]
  cases ofTree? (layers file env) with
  | none => simp
  | some base => simp

theorem Leaf.get_with_volcanoList {leaf : Leaf} (h : leaf ≠ .volcanoList) (settings : Settings)
    (list : Option String) :
    leaf.get { settings with volcanoList := list } = leaf.get settings := by
  cases leaf with
  | volcanoList => exact absurd rfl h
  | _ => rfl

/-- Settings are loaded if every choice that the layers make means something. What is loaded then
holds what each choice means, or its default; the volcano list that `PUFF_VOLCANO_LIST` names stands
in where none is chosen. The file is the one at the path, if there is one; all of a last name
`.toml` is no extension, so such a file is passed over. Where there is no file at the path, it is
the one whose name has one more extension, if there is just one. -/
theorem load_layered {files : Files} {env : Environment} {stem : String} {file : Members}
    (hread : fileKeys files (stem ++ ".toml") = .ok file) (hfile : PlainFile file)
    (henv : PlainVariables env) :
    ((∃ settings, load files env (stem ++ ".toml") = .ok settings) ↔
        ∀ leaf : Leaf, (leaf.outcome? (chosen? file env leaf)).isSome = true) ∧
      (∀ settings, load files env (stem ++ ".toml") = .ok settings ↔
        (∀ leaf : Leaf, leaf ≠ .volcanoList →
          leaf.outcome? (chosen? file env leaf) = some (leaf.get settings)) ∧
        ∃ list : Option String,
          Leaf.volcanoList.outcome? (chosen? file env .volcanoList) = some list ∧
            settings.volcanoList = list.or (fallbackList env)) ∧
      (files.isFile (stem ++ ".toml") = true → file? files (stem ++ ".toml") =
        if Files.lastName? (stem ++ ".toml") = some ".toml".toList then none
        else some (stem ++ ".toml", .toml)) ∧
      (files.isFile (stem ++ ".toml") = false →
        (∀ e, OnlyFile files (stem ++ ".toml") e →
          file? files (stem ++ ".toml") = some (stem ++ ".toml" ++ "." ++ e.1, e.2)) ∧
        ((∀ e ∈ SettingsFormat.byExtension,
            files.isFile (stem ++ ".toml" ++ "." ++ e.1) = false) →
          file? files (stem ++ ".toml") = none)) := by
  refine ⟨?_, fun settings => ?_, file?_toml_of_isFile, fun hnot =>
    ⟨fun e => file?_toml_of_only hnot, file?_toml_of_none hnot⟩⟩
  · rw [← exists_ofTree?_layers_iff hfile henv]
    constructor
    · rintro ⟨settings, hload⟩
      obtain ⟨base, hbase, -⟩ := (load_eq_ok_iff hread).1 hload
      exact ⟨base, hbase⟩
    · rintro ⟨base, hbase⟩
      exact ⟨_, (load_eq_ok_iff hread).2 ⟨base, hbase, rfl⟩⟩
  · rw [load_eq_ok_iff hread]
    constructor
    · rintro ⟨base, hbase, rfl⟩
      have hleaf := (ofTree?_layers_eq_some_iff hfile henv).1 hbase
      refine ⟨fun leaf hne => ?_, base.volcanoList, hleaf .volcanoList, rfl⟩
      exact (hleaf leaf).trans (congrArg some (Leaf.get_with_volcanoList hne base _).symm)
    · rintro ⟨hleaf, list, hlist, hfallback⟩
      refine ⟨{ settings with volcanoList := list },
        (ofTree?_layers_eq_some_iff hfile henv).2 fun leaf => ?_, ?_⟩
      · by_cases hne : leaf = .volcanoList
        · subst hne
          exact hlist
        · exact (hleaf leaf hne).trans
            (congrArg some (Leaf.get_with_volcanoList hne settings list).symm)
      · rw [withFallback, ← hfallback]

theorem read?_window : SettingsFormat.toml.read? "help_window.width = 640" =
    some [("help_window", table [("width", integer 640)])] := by
  cbv

theorem plainFile_window : PlainFile [("help_window", table [("width", integer 640)])] where
  keys := by decide
  wellNamed := by
    refine .table (List.pairwise_singleton _ _) fun m hm => ?_
    cases List.mem_singleton.1 hm
    refine .table (List.pairwise_singleton _ _) fun m hm => ?_
    cases List.mem_singleton.1 hm
    exact .other rfl
  tables := by
    intro group hgroup found hfound
    obtain ⟨m, hm, rfl⟩ := Option.map_eq_some_iff.1 hfound
    cases List.mem_singleton.1 (List.mem_of_find?_eq_some hm)
    rfl

/-- The width of the window is the file's, its height and the form are variables', the rest is the
default, and the list is the one that stands in. -/
theorem load_layered_site :
    ∃ settings,
      load (.ofPaths [("site.toml", "help_window.width = 640".toUTF8)])
        [("WEBPUFF__HELP_WINDOW__HEIGHT", "300"), ("webpuff__run_params_form", "params"),
          ("WEBPUFF__COLOUR", "red"), ("PUFF_VOLCANO_LIST", "volcanos.txt")] "site.toml" =
        .ok settings ∧
      settings.helpWindow = ⟨false, some 640, some 300, true⟩ ∧
      settings.runParamsForm = "params" ∧ settings.volcanoList = some "volcanos.txt" := by
  have hbytes : Text.Utf8.textOf "help_window.width = 640".toUTF8 = "help_window.width = 640" := by
    decide +kernel
  have hfound : file? (.ofPaths [("site.toml", "help_window.width = 640".toUTF8)])
      ("site" ++ ".toml") = some ("site.toml", .toml) := by decide +kernel
  have hread : fileKeys (.ofPaths [("site.toml", "help_window.width = 640".toUTF8)])
      ("site" ++ ".toml") = .ok [("help_window", table [("width", integer 640)])] :=
    fileKeys_of_read? hfound rfl ((congrArg _ hbytes).trans read?_window)
  have henv : PlainVariables [("WEBPUFF__HELP_WINDOW__HEIGHT", "300"),
      ("webpuff__run_params_form", "params"), ("WEBPUFF__COLOUR", "red"),
      ("PUFF_VOLCANO_LIST", "volcanos.txt")] :=
    ⟨by decide +kernel, by decide +kernel, by decide +kernel⟩
  obtain ⟨hexists, hvalues, -⟩ := load_layered hread plainFile_window henv
  obtain ⟨settings, hload⟩ := hexists.2 (by decide +kernel)
  obtain ⟨hleaf, list, hlist, hfallback⟩ := (hvalues settings).1 hload
  have hwindow : settings.helpWindow = ⟨false, some 640, some 300, true⟩ := by
    have htoolbar : settings.helpWindow.toolbar = false :=
      Option.some.inj ((hleaf .toolbar (by decide)).symm.trans (by decide +kernel))
    have hwidth : settings.helpWindow.width = some 640 :=
      Option.some.inj ((hleaf .width (by decide)).symm.trans (by decide +kernel))
    have hheight : settings.helpWindow.height = some 300 :=
      Option.some.inj ((hleaf .height (by decide)).symm.trans (by decide +kernel))
    have hscrollbars : settings.helpWindow.scrollbars = true :=
      Option.some.inj ((hleaf .scrollbars (by decide)).symm.trans (by decide +kernel))
    rw [← htoolbar, ← hwidth, ← hheight, ← hscrollbars]
  have hform : settings.runParamsForm = "params" :=
    Option.some.inj ((hleaf .runParamsForm (by decide)).symm.trans (by decide +kernel))
  have hnone : list = none := Option.some.inj (hlist.symm.trans (by decide +kernel))
  have hstands : settings.volcanoList = some "volcanos.txt" := by
    rw [hfallback, hnone]
    decide +kernel
  exact ⟨settings, hload, hwindow, hform, hstands⟩

/-- The file at a path is not always the one that counts: a file with the whole name `.toml` is
passed over although it has plain keys, and a file with one more extension is read when there is no
file at the path. -/
theorem load_not_by_file_at_path :
    ((SettingsFormat.toml.read? "help_window.width = 640" =
          some [("help_window", table [("width", integer 640)])] ∧
        PlainFile [("help_window", table [("width", integer 640)])] ∧ PlainVariables []) ∧
      Leaf.width.outcome? (chosen? [("help_window", table [("width", integer 640)])] [] .width) =
        some (some 640) ∧
      (load (.ofPaths [(".toml", "help_window.width = 640".toUTF8)]) [] ".toml").toOption.map
        (Leaf.width.get ·) = some (some 500)) ∧
    (Files.ofPaths [("site.toml.toml", "help_window.width = 640".toUTF8)]).isFile "site.toml" =
        false ∧
      Leaf.width.outcome? (chosen? [] [] .width) = some (some 500) ∧
      (load (.ofPaths [("site.toml.toml", "help_window.width = 640".toUTF8)]) []
        "site.toml").toOption.map (Leaf.width.get ·) = some (some 640) := by
  have henv : PlainVariables [] := ⟨by decide, by decide, by decide⟩
  exact ⟨⟨⟨read?_window, plainFile_window, henv⟩, by decide +kernel, by decide +kernel⟩,
    by decide +kernel, by decide +kernel, by decide +kernel⟩

end PlumeForm.Settings
