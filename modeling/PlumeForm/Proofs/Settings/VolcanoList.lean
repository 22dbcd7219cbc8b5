import PlumeForm.Proofs.Settings.Layers

/-!
# Two variables for the volcano list

`PUFF_VOLCANO_LIST` holds a path as it is. `WEBPUFF__VOLCANO_LIST` is a setting like any other, so
its text is read as a value before it becomes a path (`pathOf`). Otherwise it does not matter which
of the two is set (`load_volcanoList_variables`): the trees of layers that they lead to agree but
for the volcano list (`agreeOff_layers`), and so do the settings that are read off them
(`ofTree?_of_agreeOff`).
-/

namespace PlumeForm.Settings

open SettingsTree

/-! ## Texts as values -/

/-- The path that a variable's text comes to: the text of the value that it is read as. -/
def pathOf (text : String) : String :=
  if smallName text = "true" then "true"
  else if smallName text = "false" then "false"
  else
    match Text.readSigned? 10 text.toList with
    | some z => toString z
    | none =>
      match Decimal.read? text.toList with
      | some x => Decimal.fieldText x
      | none => text

theorem toText?_treeOf (text : String) :
    (Environment.treeOf text).toText? = some (pathOf text) := by
  unfold Environment.treeOf pathOf
  dsimp only
  split
  · rfl
  · split
    · rfl
    · cases Text.readSigned? 10 text.toList with
      | some z => rfl
      | none => cases Decimal.read? text.toList <;> rfl

/-- A text that is read as nothing else is kept. -/
theorem pathOf_of_plain {text : String}
    (hword : smallName text ≠ "true" ∧ smallName text ≠ "false")
    (hwhole : Text.readSigned? 10 text.toList = none) (hreal : Decimal.read? text.toList = none) :
    pathOf text = text := by
  rw [pathOf, if_neg hword.1, if_neg hword.2, hwhole, hreal]

/-! ## Settings from trees that agree but for the volcano list -/

/-- What names a list is no null, so it is converted. -/
theorem outcome?_volcanoList {value : SettingsTree} {list : String}
    (h : value.toText? = some list) :
    Leaf.volcanoList.outcome? (some value) = some (some list) := by
  cases value with
  | null => cases h
  | _ => exact congrArg (Option.map some) h

/-- The settings with another volcano list. -/
def withList (settings : Settings) (list : String) : Settings :=
  { settings with volcanoList := some list }

theorem withList_eq_self_iff {settings : Settings} {list : String}
    (h : settings.volcanoList = some list) (list' : String) :
    settings.withList list' = settings ↔ list' = list := by
  constructor
  · intro heq
    have hlist : (settings.withList list').volcanoList = settings.volcanoList := by rw [heq]
    exact Option.some.inj (hlist.trans h)
  · rintro rfl
    rw [withList, ← h]

/-- A tree that names a volcano list, and one that names none but says the same otherwise. -/
theorem ofTree?_of_agreeOff {tree tree' value : SettingsTree} {list : String}
    (htable : tree.isTable = true) (htable' : tree'.isTable = true)
    (hagree : AgreeOff "volcano_list" tree tree')
    (hvalue : find? (membersOf tree) "volcano_list" = some value)
    (hlist : value.toText? = some list)
    (hnone : find? (membersOf tree') "volcano_list" = none) :
    ofTree? tree = (ofTree? tree').map (·.withList list) := by
  obtain ⟨members, rfl⟩ := isTable_iff.1 htable
  obtain ⟨members', rfl⟩ := isTable_iff.1 htable'
  have hother : ∀ name, name ≠ "volcano_list" → find? members name = find? members' name :=
    hagree
  have hhere : fieldOr (find? members "volcano_list") none (toOption? toText?) =
      some (some list) := by
    rw [membersOf_table] at hvalue
    rw [hvalue]
    exact outcome?_volcanoList hlist
  have hthere : fieldOr (find? members' "volcano_list") none (toOption? toText?) = some none := by
    rw [membersOf_table] at hnone
    rw [hnone]
    rfl
  simp only [ofTree?, fields?, hhere, hthere, hother "endpoints" (by decide),
    hother "run_params_form" (by decide), hother "help_window_name" (by decide),
    hother "help_window" (by decide), hother "default_area" (by decide),
    hother "eruption_date_check" (by decide), hother "normalize_eruption_dates" (by decide),
    Option.bind_eq_bind, Option.bind_some, Option.map_bind, Function.comp_def, Option.pure_def,
    Option.map_some, withList]

theorem volcanoList_of_find?_eq_none {tree : SettingsTree} {settings : Settings}
    (htable : tree.isTable = true) (hnone : find? (membersOf tree) "volcano_list" = none)
    (h : ofTree? tree = some settings) : settings.volcanoList = none := by
  obtain ⟨members, rfl⟩ := isTable_iff.1 htable
  rw [membersOf_table] at hnone
  simp only [ofTree?, fields?, hnone, fieldOr, Option.bind_eq_bind, Option.bind_some,
    Option.bind_eq_some_iff] at h
  obtain ⟨paths, -, form, -, name, -, features, -, area, -, check, -, normalize, -, hsettings⟩ := h
  cases hsettings
  rfl

/-! ## The layers of the two environments -/

theorem not_sets_of_append {env more : Environment} {name : String}
    (h : ¬ Sets (Environment.keys (env ++ more)) name) : ¬ Sets more.keys name := by
  rintro ⟨m, hm, hplace⟩
  refine h ⟨m, ?_, hplace⟩
  rw [Environment.keys_append]
  exact List.mem_append_right _ hm

section

variable {file : Members} {before after : Environment} {name text : String}

theorem smallName_volcanoList : smallName "volcano_list" = "volcano_list" := by decide

/-- The layers with a variable that sets the volcano list. -/
theorem layers_volcanoList (hname : smallName name = Leaf.volcanoList.variableName) :
    layers file (before ++ (name, text) :: after) =
      layKeys (layAt (Environment.treeOf text) (named ["volcano_list"])
        (layKeys (layKeys (table []) file) before.keys)) after.keys := by
  have hcons := Environment.keys_cons_of_some (name, text) (Leaf.keyOf?_of_smallName_eq hname) after
  rw [layers, Environment.keys_append, hcons, layKeys_append, layKeys_cons,
    Leaf.volcanoList.placeOf_path]
  rfl

/-- The variable changes nothing but the volcano list. -/
theorem agreeOff_layers (hname : smallName name = Leaf.volcanoList.variableName) :
    AgreeOff "volcano_list" (layers file (before ++ (name, text) :: after))
      (layers file (before ++ after)) := by
  have hhead : head? (named ["volcano_list"]) = some "volcano_list" :=
    head?_named smallName_volcanoList []
  rw [layers_volcanoList hname, layers, Environment.keys_append, layKeys_append]
  exact (agreeOff_layAt _ hhead _).layKeys after.keys

/-- The variable says what the volcano list is, unless a later one does. -/
theorem find?_layers_volcanoList (hname : smallName name = Leaf.volcanoList.variableName)
    (hafter : ¬ Sets after.keys "volcano_list") :
    find? (membersOf (layers file (before ++ (name, text) :: after))) "volcano_list" =
      some (Environment.treeOf text) := by
  have hsmall : ∀ n ∈ ["volcano_list"], smallName n = n :=
    List.forall_mem_singleton.2 smallName_volcanoList
  rw [layers_volcanoList hname, find?_layKeys_of_not_sets hafter, ← lookup?_singleton]
  exact lookup?_layAt_self (isTable_treeOf text) hsmall _

theorem find?_layers_of_not_sets {env : Environment} {member : String} (hfile : ¬ Sets file member)
    (henv : ¬ Sets env.keys member) : find? (membersOf (layers file env)) member = none := by
  rw [layers, find?_layKeys_of_not_sets henv, find?_layKeys_of_not_sets hfile]
  rfl

theorem layers_cons_fallback :
    layers file (before ++ (volcanoListVariable, text) :: after) =
      layers file (before ++ after) := by
  have hkey : Environment.keyOf? volcanoListVariable = none := by decide
  have hcons : Environment.keys ((volcanoListVariable, text) :: after) = after.keys :=
    Environment.keys_cons_of_none (volcanoListVariable, text) hkey after
  unfold layers
  rw [Environment.keys_append, Environment.keys_append, hcons]

theorem fallbackList_of_mem (hbefore : ∀ v ∈ before, v.1 ≠ volcanoListVariable)
    (htext : Text.isBlankText text.toList = false) :
    fallbackList (before ++ (volcanoListVariable, text) :: after) = some text := by
  have hfind : Environment.value? (before ++ (volcanoListVariable, text) :: after)
      volcanoListVariable = some text := by
    have hnone : before.find? (fun v => v.1 == volcanoListVariable) = none :=
      List.find?_eq_none.2 fun v hv hbeq => hbefore v hv (beq_iff_eq.1 hbeq)
    rw [Environment.value?, List.find?_append, hnone, Option.none_or, List.find?_cons_of_pos]
    · rfl
    · exact beq_self_eq_true volcanoListVariable
  rw [fallbackList, hfind, Option.filter_some, htext]
  rfl

end

/-! ## The settings of the two environments -/

section

variable {files : Files} {path : String} {before after before' after' : Environment}
  {name text : String}

/-- What is loaded with the two variables. -/
theorem load_volcanoList
    (hname : smallName name = Leaf.volcanoList.variableName)
    (htext : Text.isBlankText text.toList = false) (hrest : before ++ after = before' ++ after')
    (hfallback : ∀ v ∈ before', v.1 ≠ volcanoListVariable)
    (henv : ¬ Sets (Environment.keys (before ++ after)) "volcano_list")
    (hfile : ∀ file, fileKeys files path = .ok file → ¬ Sets file "volcano_list") :
    (∀ settings,
        load files (before' ++ (volcanoListVariable, text) :: after') path = .ok settings →
        settings.volcanoList = some text) ∧
      load files (before ++ (name, text) :: after) path =
        (load files (before' ++ (volcanoListVariable, text) :: after') path).map
          (·.withList (pathOf text)) := by
  cases hread : fileKeys files path with
  | error e =>
    rw [load_of_fileKeys_error hread, load_of_fileKeys_error hread]
    exact ⟨fun _ h => (nomatch h), rfl⟩
  | ok file =>
    rw [load_of_fileKeys_ok hread, load_of_fileKeys_ok hread, layers_cons_fallback, ← hrest,
      fallbackList_of_mem hfallback htext]
    have hnone := find?_layers_of_not_sets (hfile file hread) henv
    have htree : ofTree? (layers file (before ++ (name, text) :: after)) =
        (ofTree? (layers file (before ++ after))).map (·.withList (pathOf text)) :=
      ofTree?_of_agreeOff (isTable_layers file _) (isTable_layers file _) (agreeOff_layers hname)
        (find?_layers_volcanoList hname (not_sets_of_append henv)) (toText?_treeOf text) hnone
    rw [htree]
    cases hbase : ofTree? (layers file (before ++ after)) with
    | none => exact ⟨fun _ h => (nomatch h), rfl⟩
    | some base =>
      have hlist := volcanoList_of_find?_eq_none (isTable_layers file _) hnone hbase
      refine ⟨fun settings h => ?_, rfl⟩
      cases h
      rw [withFallback, hlist]
      rfl

end

end PlumeForm.Settings
