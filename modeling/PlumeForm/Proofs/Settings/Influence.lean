import PlumeForm.CommandLine.Run
import PlumeForm.Proofs.Settings.Order

/-!
# What settings and the volcano list depend on

Of the environment, only the variables of settings go into the layers, and `PUFF_VOLCANO_LIST` is
looked at afterwards (`load_eq_map`). So the volcano list that is loaded comes from one of these,
and variables with other names change nothing (`volcanoList_sources`). A command takes the list of
the command line before the one that is loaded (`run_of_usesTable`).

Environments are compared name by name. Their variables may be read in different orders, as long as
those of settings stand clear of each other; for others the order counts (`load_depends_on_order`).
-/

namespace PlumeForm

/-! ## Environments -/

namespace Environment

open SettingsTree

/-- The name begins like those of settings, in any case. -/
def IsSetting (name : String) : Prop :=
  front.toList <+: (smallName name).toList

instance (name : String) : Decidable (IsSetting name) :=
  inferInstanceAs (Decidable (front.toList <+: (smallName name).toList))

/-- The variables of settings, in the order of the environment. -/
def settings (env : Environment) : Environment :=
  env.filter fun v => IsSetting v.1

/-- No two variables have one name. -/
def NamesDiffer (env : Environment) : Prop :=
  (env.map (·.1)).Nodup

instance (env : Environment) : Decidable (NamesDiffer env) :=
  inferInstanceAs (Decidable (env.map (·.1)).Nodup)

variable {env env' : Environment}

theorem keyOf?_of_not_isSetting {name : String} (h : ¬ IsSetting name) : keyOf? name = none := by
  cases hkey : keyOf? name with
  | none => rfl
  | some key =>
    obtain ⟨rest, hrest, -⟩ := keyOf?_eq_some_iff.1 hkey
    exact absurd ⟨rest, hrest.symm⟩ h

/-- Other variables set no keys. -/
theorem keys_settings (env : Environment) : env.settings.keys = env.keys := by
  unfold settings keys
  rw [List.filterMap_filter]
  refine List.filterMap_congr fun v _ => ?_
  by_cases hname : IsSetting v.1
  · rw [if_pos (decide_eq_true hname)]
  · rw [if_neg (by simpa using hname), keyOf?_of_not_isSetting hname]
    rfl

theorem name_of_find? {name : String} {w : String × String}
    (h : env.find? (fun w => w.1 == name) = some w) : w.1 = name := by
  simpa using List.find?_some h

/-- The variables that there are have their values. -/
theorem mem_iff_value? (hnames : env.NamesDiffer) {v : String × String} :
    v ∈ env ↔ Environment.value? env v.1 = some v.2 := by
  unfold Environment.value?
  constructor
  · intro hv
    have hsome : (env.find? fun w => w.1 == v.1).isSome = true :=
      List.find?_isSome.2 ⟨v, hv, beq_self_eq_true v.1⟩
    obtain ⟨w, hw⟩ := Option.isSome_iff_exists.1 hsome
    have heq : w = v :=
      List.inj_on_of_nodup_map hnames (List.mem_of_find?_eq_some hw) hv (name_of_find? hw)
    rw [hw, heq]
    rfl
  · intro hvalue
    obtain ⟨w, hw, hvalue⟩ := Option.map_eq_some_iff.1 hvalue
    have heq : w = v := Prod.ext (name_of_find? hw) hvalue
    exact heq ▸ List.mem_of_find?_eq_some hw

/-- Environments that give the same values to settings have the same variables of settings, in some
order. -/
theorem settings_perm_iff (hnames : env.NamesDiffer) (hnames' : env'.NamesDiffer) :
    env.settings.Perm env'.settings ↔
      ∀ name, IsSetting name → env.value? name = env'.value? name := by
  have hnodup : env.settings.Nodup := hnames.of_map.filter _
  have hnodup' : env'.settings.Nodup := hnames'.of_map.filter _
  rw [List.perm_ext_iff_of_nodup hnodup hnodup']
  constructor
  · intro h name hname
    ext value
    have hmem := h (name, value)
    simpa [settings, hname, mem_iff_value? hnames, mem_iff_value? hnames'] using hmem
  · intro h v
    simp only [settings, List.mem_filter, mem_iff_value? hnames, mem_iff_value? hnames',
      decide_eq_true_eq]
    constructor
    · rintro ⟨hv, hname⟩
      exact ⟨(h v.1 hname).symm.trans hv, hname⟩
    · rintro ⟨hv, hname⟩
      exact ⟨(h v.1 hname).trans hv, hname⟩

end Environment

/-! ## Loading -/

namespace Settings

open SettingsTree

/-- The settings of a file and of the keys that the environment sets. -/
def loadLayers (files : Files) (keys : Members) (path : String) : Except SettingsError Settings :=
  match fileKeys files path with
  | .error e => .error e
  | .ok file =>
    match ofTree? (((table []).layKeys file).layKeys keys) with
    | some settings => .ok settings
    | none => .error .invalid

/-- Beyond its keys, an environment is asked for the list that stands in. -/
theorem load_eq_map (files : Files) (env : Environment) (path : String) :
    load files env path =
      (loadLayers files env.keys path).map (·.withFallback (fallbackList env)) := by
  unfold load loadLayers layers
  cases fileKeys files path with
  | error e => rfl
  | ok file =>
    dsimp only
    cases ofTree? (((table []).layKeys file).layKeys env.keys) with
    | none => rfl
    | some settings => rfl

/-- The volcano list that a file and the variables of settings give. -/
def layeredList? (file : Members) (env : Environment) : Option (Option String) :=
  Leaf.volcanoList.outcome? (find? (membersOf (layers file env)) "volcano_list")

theorem outcome?_of_ofTree? {tree : SettingsTree} {settings : Settings}
    (htable : tree.isTable = true) (h : ofTree? tree = some settings) :
    Leaf.volcanoList.outcome? (find? (membersOf tree) "volcano_list") =
      some settings.volcanoList := by
  obtain ⟨members, rfl⟩ := isTable_iff.1 htable
  simp only [ofTree?, fields?, Option.bind_eq_bind, Option.bind_some,
    Option.bind_eq_some_iff] at h
  obtain ⟨paths, -, form, -, name, -, features, -, list, hlist, area, -, check, -, normalize, -,
    hsettings⟩ := h
  cases hsettings
  exact hlist

/-- The list of the layers is loaded, and else the one of `PUFF_VOLCANO_LIST`. -/
theorem volcanoList_of_load {files : Files} {env : Environment} {path : String}
    {settings : Settings} (h : load files env path = .ok settings) :
    ∃ file list, fileKeys files path = .ok file ∧ layeredList? file env = some list ∧
      settings.volcanoList = list.or (fallbackList env) := by
  cases hread : fileKeys files path with
  | error e =>
    rw [load_of_fileKeys_error hread] at h
    cases h
  | ok file =>
    obtain ⟨base, hbase, rfl⟩ := (load_eq_ok_iff hread).1 h
    exact ⟨file, base.volcanoList, rfl, outcome?_of_ofTree? (isTable_layers file env) hbase, rfl⟩

end Settings

/-! ## Using the list -/

namespace CommandLine

variable {around : Surroundings} {invocation : Invocation} {settings : Settings}

/-- The command works on a volcano table. -/
def Command.UsesTable (command : Command) : Prop :=
  command = .volcanoes ∨ ∃ choice, command = .populate choice

/-- What a command comes to with a volcano table. -/
def concludeWith (around : Surroundings) (settings : Settings) :
    Command → VolcanoTable → Conclusion
  | .populate choice, table =>
    match indexOf table choice with
    | .error reasons => .refused reasons
    | .ok index =>
      fire around settings { runForm := Form.run.select index, volcanoes := table } .volcanoSelected
  | _, table => { output := shown table.toJson }

/-- What a command comes to with the volcano table of a file. -/
def concludeFrom (around : Surroundings) (settings : Settings) (command : Command)
    (path : String) : Conclusion :=
  match VolcanoFile.load around.files path settings.defaultArea with
  | .ok table => concludeWith around settings command table
  | .error e => .refused e.messages

theorem loadSettings_of_load {path : String}
    (hpath : invocation.settings.getD Settings.defaultFile = path)
    (h : Settings.load around.files around.environment path = .ok settings) :
    loadSettings around invocation = .ok settings := by
  unfold loadSettings
  cases hsettings : invocation.settings with
  | none =>
    rw [hsettings, Option.getD_none] at hpath
    subst hpath
    dsimp only
    rw [h]
    rfl
  | some found =>
    rw [hsettings, Option.getD_some] at hpath
    subst hpath
    dsimp only
    rw [h]
    rfl

/-- The list of the command line comes before the one of the settings. -/
theorem run_of_usesTable (hcommand : invocation.command.UsesTable)
    (hsettings : loadSettings around invocation = .ok settings) :
    run around invocation =
      (invocation.volcanoList.or settings.volcanoList).elim
        (.refused ["no volcano list configured; pass --volcano-list or set PUFF_VOLCANO_LIST"])
        (concludeFrom around settings invocation.command) := by
  unfold run runCommand
  rw [hsettings]
  rcases hcommand with hcommand | ⟨choice, hcommand⟩
  · rw [hcommand]
    dsimp only [showVolcanoes, loadVolcanoes]
    cases invocation.volcanoList.or settings.volcanoList with
    | none => rfl
    | some path =>
      dsimp only [Option.elim_some, concludeFrom]
      cases VolcanoFile.load around.files path settings.defaultArea with
      | error e => rfl
      | ok table => rfl
  · rw [hcommand]
    dsimp only [populate, loadVolcanoes]
    cases invocation.volcanoList.or settings.volcanoList with
    | none => rfl
    | some path =>
      dsimp only [Option.elim_some, concludeFrom]
      cases VolcanoFile.load around.files path settings.defaultArea with
      | error e => rfl
      | ok table => rfl

end CommandLine

/-! ## What the loaded settings depend on -/

namespace Settings

open CommandLine Environment

/-- Variables of settings that stand clear of each other may be read in any order. -/
theorem loadLayers_perm {keys keys' : SettingsTree.Members} (hperm : keys.Perm keys')
    (hvalues : ∀ m ∈ keys, m.2.isTable = false) (hclear : keys.Pairwise ClearKeys) (files : Files)
    (path : String) : loadLayers files keys path = loadLayers files keys' path := by
  unfold loadLayers
  cases fileKeys files path with
  | error e => rfl
  | ok file =>
    dsimp only
    rw [ofTree?_layKeys_perm hperm hvalues hclear]

theorem isTable_of_mem_keys {env : Environment} {m : String × SettingsTree} (h : m ∈ env.keys) :
    m.2.isTable = false := by
  obtain ⟨v, -, hm⟩ := List.mem_filterMap.1 h
  obtain ⟨key, -, rfl⟩ := Option.map_eq_some_iff.1 hm
  exact isTable_treeOf v.2

/-- The layers are the same for environments that give the same values to settings, if the order of
these is the same or does not count. -/
theorem loadLayers_keys_congr {env env' : Environment} (hnames : env.NamesDiffer)
    (hnames' : env'.NamesDiffer)
    (hsame : ∀ name, IsSetting name → env.value? name = env'.value? name)
    (horder : VariablesClear env ∨ env.settings = env'.settings) (files : Files) (path : String) :
    loadLayers files env.keys path = loadLayers files env'.keys path := by
  rcases horder with hclear | horder
  · have hperm : env.keys.Perm env'.keys := by
      rw [← keys_settings, ← keys_settings env']
      exact ((settings_perm_iff hnames hnames').2 hsame).filterMap _
    exact loadLayers_perm hperm (fun m hm => isTable_of_mem_keys hm) hclear files path
  · rw [← keys_settings, horder, keys_settings]

/-- The volcano list of loaded settings is the one of the file and the variables of settings, and
else the text of `PUFF_VOLCANO_LIST` as it is, unless that is blank. A command that works on a table
takes the list of the command line, and else the loaded one, and without a list it is refused. Two
environments that give the same values to the variables of settings lead to the same failure, or to
settings that differ in the volcano list at most; if they also give the same value to
`PUFF_VOLCANO_LIST`, nothing differs. This holds in whatever order the variables of settings are
read if they stand clear of each other, as plain ones do, and else if both environments are read in
one order. -/
theorem volcanoList_sources (files : Files) (path : String) :
    (∀ env settings, load files env path = .ok settings →
      ∃ file list, fileKeys files path = .ok file ∧ layeredList? file env = some list ∧
        settings.volcanoList =
          list.or ((env.value? "PUFF_VOLCANO_LIST").filter fun text =>
            !Text.isBlankText text.toList)) ∧
    (∀ env now invocation settings, load files env path = .ok settings →
      invocation.settings.getD defaultFile = path → invocation.command.UsesTable →
      let around : Surroundings := ⟨files, env, now⟩
      (∀ list, invocation.volcanoList = some list →
        run around invocation = concludeFrom around settings invocation.command list) ∧
      (∀ list, invocation.volcanoList = none → settings.volcanoList = some list →
        run around invocation = concludeFrom around settings invocation.command list) ∧
      (invocation.volcanoList = none → settings.volcanoList = none →
        run around invocation = .refused
          ["no volcano list configured; pass --volcano-list or set PUFF_VOLCANO_LIST"])) ∧
    (∀ env, PlainVariables env → VariablesClear env) ∧
    ∀ env env' : Environment, env.NamesDiffer → env'.NamesDiffer →
      (∀ name, IsSetting name → env.value? name = env'.value? name) →
      (VariablesClear env ∨ env.settings = env'.settings) →
      (∀ e, load files env path = .error e → load files env' path = .error e) ∧
      (∀ settings, load files env path = .ok settings →
        ∃ list, load files env' path = .ok { settings with volcanoList := list }) ∧
      (env.value? "PUFF_VOLCANO_LIST" = env'.value? "PUFF_VOLCANO_LIST" →
        load files env path = load files env' path) := by
  refine ⟨?_, ?_, fun _ => PlainVariables.clear, ?_⟩
  · intro env settings h
    exact volcanoList_of_load h
  · intro env now invocation settings h hpath hcommand
    have hload : loadSettings ⟨files, env, now⟩ invocation = .ok settings :=
      loadSettings_of_load hpath h
    have hrun := run_of_usesTable hcommand hload
    refine ⟨?_, ?_, ?_⟩
    · intro list hlist
      rw [hrun, hlist]
      rfl
    · intro list hnone hlist
      rw [hrun, hnone, hlist]
      rfl
    · intro hnone hlist
      rw [hrun, hnone, hlist]
      rfl
  · intro env env' hnames hnames' hsame horder
    have hlayers := loadLayers_keys_congr hnames hnames' hsame horder files path
    simp only [load_eq_map, hlayers]
    cases loadLayers files env'.keys path with
    | error e =>
      refine ⟨?_, ?_, ?_⟩
      · intro e' h
        exact h
      · intro settings h
        cases h
      · intro _
        rfl
    | ok base =>
      refine ⟨?_, ?_, ?_⟩
      · intro e h
        cases h
      · intro settings h
        cases h
        exact ⟨_, rfl⟩
      · intro hvalue
        have hfallback : fallbackList env = fallbackList env' := by
          rw [fallbackList, fallbackList, volcanoListVariable, hvalue]
        rw [hfallback]

/-- One environment names a list, which a command then tries to read. In the other one, where the
variables of settings stand the other way round, the list is blank and there is one more variable;
the settings are the same but for the list. -/
theorem volcanoList_sources_blank :
    let env : Environment :=
      [("WEBPUFF__HELP_WINDOW__WIDTH", "640"), ("PUFF_VOLCANO_LIST", "volcanos.txt"),
        ("webpuff__help_window__height", "300")]
    let env' : Environment :=
      [("webpuff__help_window__height", "300"), ("HOME", "/root"),
        ("WEBPUFF__HELP_WINDOW__WIDTH", "640"), ("PUFF_VOLCANO_LIST", " ")]
    ∃ settings,
      load (.ofPaths []) env "webpuff.toml" = .ok settings ∧
        settings.volcanoList = some "volcanos.txt" ∧
        run ⟨.ofPaths [], env, 0⟩ { command := .volcanoes } =
          .refused ["failed to read volcano table 'volcanos.txt'"] ∧
        ∃ list, load (.ofPaths []) env' "webpuff.toml" =
          .ok { settings with volcanoList := list } := by
  intro env env'
  obtain ⟨hlist, hrun, hclear, hsame⟩ := volcanoList_sources (.ofPaths []) "webpuff.toml"
  have hsome : (load (.ofPaths []) env "webpuff.toml").toOption.isSome = true := by decide +kernel
  cases hload : load (.ofPaths []) env "webpuff.toml" with
  | error e =>
    rw [hload] at hsome
    cases hsome
  | ok settings =>
    have hstands : settings.volcanoList = some "volcanos.txt" := by
      obtain ⟨file, list, hread, hlayered, hfound⟩ := hlist env settings hload
      have hfile : file = [] := by
        cases hread
        rfl
      have hnone : list = none := by
        have hlayers : layeredList? [] env = some none := by decide +kernel
        rw [hfile, hlayers] at hlayered
        exact (Option.some.inj hlayered).symm
      rw [hfound, hnone]
      decide +kernel
    obtain ⟨-, hused, -⟩ := hrun env 0 { command := .volcanoes } settings hload rfl (.inl rfl)
    have hnames : env.NamesDiffer := by decide +kernel
    have hnames' : env'.NamesDiffer := by decide +kernel
    have hagree := (settings_perm_iff hnames hnames').1 (by decide +kernel)
    have hplain : PlainVariables env := ⟨by decide +kernel, by decide +kernel, by decide +kernel⟩
    obtain ⟨-, hother, -⟩ := hsame env env' hnames hnames' hagree (.inl (hclear env hplain))
    exact ⟨settings, rfl, hstands, hused "volcanos.txt" rfl hstands, hother settings hload⟩

/-- The order counts where one variable sets a group and another one a choice in it: a text in the
place of the group means nothing, unless the choice is laid over it. -/
theorem load_depends_on_order :
    let env : Environment :=
      [("WEBPUFF__HELP_WINDOW", "x"), ("WEBPUFF__HELP_WINDOW__WIDTH", "640")]
    let env' : Environment :=
      [("WEBPUFF__HELP_WINDOW__WIDTH", "640"), ("WEBPUFF__HELP_WINDOW", "x")]
    (env.map fun v => SettingsTree.smallName v.1).Nodup ∧
      (∀ name, IsSetting name → env.value? name = env'.value? name) ∧
      env.value? "PUFF_VOLCANO_LIST" = env'.value? "PUFF_VOLCANO_LIST" ∧
      (load (.ofPaths []) env "webpuff.toml").toOption.map (·.helpWindow.width) =
        some (some 640) ∧
      (load (.ofPaths []) env' "webpuff.toml").toOption.map (·.helpWindow.width) = none := by
  intro env env'
  have hagree : ∀ name, IsSetting name → env.value? name = env'.value? name :=
    (settings_perm_iff (by decide) (by decide)).1 (by decide +kernel)
  exact ⟨by decide +kernel, hagree, rfl, by decide +kernel, by decide +kernel⟩

end Settings

end PlumeForm
