import PlumeForm.Settings.Convert
import PlumeForm.Proofs.Settings.Places

/-!
# The choices that settings consist of

Settings are fourteen choices: six single ones, and four in each of two groups. Each has a path in
the tree, a default and a type. A tree whose groups are tables yields settings exactly when every
choice that it makes is of its type, and these settings hold what each choice means, or its default
(`ofTree?_eq_some_iff`, `exists_ofTree?_iff`).
-/

namespace PlumeForm.Settings

open SettingsTree

/-! ## The choices -/

/-- A single choice. -/
inductive Leaf where
  | runParamsScript
  | ashxpOptionsScript
  | mapOptionsScript
  | placeholderImage
  | runParamsForm
  | helpWindowName
  | toolbar
  | width
  | height
  | scrollbars
  | volcanoList
  | defaultArea
  | eruptionDateCheck
  | normalizeEruptionDates
deriving DecidableEq, Repr

namespace Leaf

/-- Every choice. -/
def all : List Leaf :=
  [runParamsScript, ashxpOptionsScript, mapOptionsScript, placeholderImage, runParamsForm,
    helpWindowName, toolbar, width, height, scrollbars, volcanoList, defaultArea, eruptionDateCheck,
    normalizeEruptionDates]

theorem mem_all (leaf : Leaf) : leaf ∈ all := by
  cases leaf <;> decide

instance {P : Leaf → Prop} [DecidablePred P] : Decidable (∀ leaf, P leaf) :=
  decidable_of_iff (∀ leaf ∈ all, P leaf)
    ⟨fun h leaf => h leaf (mem_all leaf), fun h leaf _ => h leaf⟩

/-- The names that lead to the choice. -/
def path : Leaf → List String
  | runParamsScript => ["endpoints", "run_params_script"]
  | ashxpOptionsScript => ["endpoints", "ashxp_options_script"]
  | mapOptionsScript => ["endpoints", "map_options_script"]
  | placeholderImage => ["endpoints", "placeholder_image"]
  | runParamsForm => ["run_params_form"]
  | helpWindowName => ["help_window_name"]
  | toolbar => ["help_window", "toolbar"]
  | width => ["help_window", "width"]
  | height => ["help_window", "height"]
  | scrollbars => ["help_window", "scrollbars"]
  | volcanoList => ["volcano_list"]
  | defaultArea => ["default_area"]
  | eruptionDateCheck => ["eruption_date_check"]
  | normalizeEruptionDates => ["normalize_eruption_dates"]

/-- What can be chosen. -/
abbrev Value : Leaf → Type
  | toolbar | scrollbars | normalizeEruptionDates => Bool
  | width | height => Option UInt32
  | volcanoList => Option String
  | defaultArea => Float
  | eruptionDateCheck => DateCheck
  | _ => String

/-- What settings choose. -/
def get (settings : Settings) : (leaf : Leaf) → leaf.Value
  | runParamsScript => settings.endpoints.runParamsScript
  | ashxpOptionsScript => settings.endpoints.ashxpOptionsScript
  | mapOptionsScript => settings.endpoints.mapOptionsScript
  | placeholderImage => settings.endpoints.placeholderImage
  | runParamsForm => settings.runParamsForm
  | helpWindowName => settings.helpWindowName
  | toolbar => settings.helpWindow.toolbar
  | width => settings.helpWindow.width
  | height => settings.helpWindow.height
  | scrollbars => settings.helpWindow.scrollbars
  | volcanoList => settings.volcanoList
  | defaultArea => settings.defaultArea
  | eruptionDateCheck => settings.eruptionDateCheck
  | normalizeEruptionDates => settings.normalizeEruptionDates

/-- The choice that a value in a tree means. -/
def convert : (leaf : Leaf) → SettingsTree → Option leaf.Value
  | runParamsScript | ashxpOptionsScript | mapOptionsScript | placeholderImage | runParamsForm
  | helpWindowName => toText?
  | toolbar | scrollbars | normalizeEruptionDates => toBool?
  | width | height => toOption? toUInt32?
  | volcanoList => toOption? toText?
  | defaultArea => toFloat?
  | eruptionDateCheck => toWord? DateCheck.all DateCheck.name

/-- What becomes of a choice for which a tree may have a value. -/
def outcome? (leaf : Leaf) (value : Option SettingsTree) : Option leaf.Value :=
  fieldOr value (leaf.get {}) leaf.convert

end Leaf

/-- The settings that make the given choices. -/
def ofLeaves (value : (leaf : Leaf) → leaf.Value) : Settings where
  endpoints :=
    ⟨value .runParamsScript, value .ashxpOptionsScript, value .mapOptionsScript,
      value .placeholderImage⟩
  runParamsForm := value .runParamsForm
  helpWindowName := value .helpWindowName
  helpWindow := ⟨value .toolbar, value .width, value .height, value .scrollbars⟩
  volcanoList := value .volcanoList
  defaultArea := value .defaultArea
  eruptionDateCheck := value .eruptionDateCheck
  normalizeEruptionDates := value .normalizeEruptionDates

theorem get_ofLeaves (value : (leaf : Leaf) → leaf.Value) (leaf : Leaf) :
    leaf.get (ofLeaves value) = value leaf := by
  cases leaf <;> rfl

/-! ## Reading the choices off a tree -/

/-- The names of the groups. -/
def groups : List String := ["endpoints", "help_window"]

/-- The groups of a tree, as far as they are there, are tables. -/
def GroupsAreTables (tree : SettingsTree) : Prop :=
  ∀ group ∈ groups, ∀ found, find? (membersOf tree) group = some found → found.isTable = true

/-- What is read of a group: its own fields, where it is there, or else the defaults. -/
theorem fieldOr_group {α : Type} (read : SettingsTree → Option α) {default : α}
    {members : Members} {group : String}
    (htable : ∀ found, find? members group = some found → found.isTable = true)
    (hdefault : read (table []) = some default) :
    fieldOr (find? members group) default read =
      read (table (membersOf ((find? members group).getD null))) := by
  cases hfound : find? members group with
  | none => exact hdefault.symm
  | some found =>
    obtain ⟨inner, rfl⟩ := isTable_iff.1 (htable found hfound)
    rfl

theorem lookup?_group (members : Members) (group name : String) :
    lookup? (table members) [group, name] =
      find? (membersOf ((find? members group).getD null)) name := by
  rw [lookup?_cons, membersOf_table]
  cases find? members group with
  | none => rfl
  | some found => exact lookup?_singleton found name

theorem endpointPaths_ofTree?_eq_some_iff {members : Members} {paths : EndpointPaths} :
    EndpointPaths.ofTree? (table members) = some paths ↔
      Leaf.runParamsScript.outcome? (find? members "run_params_script") =
          some paths.runParamsScript ∧
        Leaf.ashxpOptionsScript.outcome? (find? members "ashxp_options_script") =
          some paths.ashxpOptionsScript ∧
        Leaf.mapOptionsScript.outcome? (find? members "map_options_script") =
          some paths.mapOptionsScript ∧
        Leaf.placeholderImage.outcome? (find? members "placeholder_image") =
          some paths.placeholderImage := by
  simp only [EndpointPaths.ofTree?, fields?, Option.bind_eq_bind, Option.bind_eq_some_iff]
  constructor
  · rintro ⟨_, hfield, runParams, hrun, ashxpOptions, hashxp, mapOptions, hmap, placeholder,
      hplace, hpaths⟩
    cases hfield
    cases hpaths
    exact ⟨hrun, hashxp, hmap, hplace⟩
  · rintro ⟨hrun, hashxp, hmap, hplace⟩
    exact ⟨_, rfl, _, hrun, _, hashxp, _, hmap, _, hplace, rfl⟩

theorem windowFeatures_ofTree?_eq_some_iff {members : Members} {features : WindowFeatures} :
    WindowFeatures.ofTree? (table members) = some features ↔
      Leaf.toolbar.outcome? (find? members "toolbar") = some features.toolbar ∧
        Leaf.width.outcome? (find? members "width") = some features.width ∧
        Leaf.height.outcome? (find? members "height") = some features.height ∧
        Leaf.scrollbars.outcome? (find? members "scrollbars") = some features.scrollbars := by
  simp only [WindowFeatures.ofTree?, fields?, Option.bind_eq_bind, Option.bind_eq_some_iff]
  constructor
  · rintro ⟨_, hfield, toolbar, htoolbar, width, hwidth, height, hheight, scrollbars, hscrollbars,
      hfeatures⟩
    cases hfield
    cases hfeatures
    exact ⟨htoolbar, hwidth, hheight, hscrollbars⟩
  · rintro ⟨htoolbar, hwidth, hheight, hscrollbars⟩
    exact ⟨_, rfl, _, htoolbar, _, hwidth, _, hheight, _, hscrollbars, rfl⟩

/-- A tree yields the settings that hold what each choice means there, or its default. -/
theorem ofTree?_eq_some_iff {members : Members} (hgroups : GroupsAreTables (table members))
    {settings : Settings} :
    ofTree? (table members) = some settings ↔
      ∀ leaf : Leaf,
        leaf.outcome? (lookup? (table members) leaf.path) = some (leaf.get settings) := by
  have hendpoints := fieldOr_group EndpointPaths.ofTree?
    (hgroups "endpoints" (by decide)) rfl
  have hwindow := fieldOr_group WindowFeatures.ofTree?
    (hgroups "help_window" (by decide)) rfl
  simp only [ofTree?, fields?, Option.bind_eq_bind, Option.bind_eq_some_iff]
  constructor
  · rintro ⟨_, hfield, paths, hpaths, form, hform, name, hname, features, hfeatures, list, hlist,
      area, harea, check, hcheck, normalize, hnormalize, hsettings⟩
    cases hfield
    cases hsettings
    obtain ⟨hrun, hashxp, hmap, hplace⟩ :=
      endpointPaths_ofTree?_eq_some_iff.1 (hendpoints.symm.trans hpaths)
    obtain ⟨htoolbar, hwidth, hheight, hscrollbars⟩ :=
      windowFeatures_ofTree?_eq_some_iff.1 (hwindow.symm.trans hfeatures)
    intro leaf
    cases leaf <;> simp only [Leaf.path, lookup?_group, lookup?_singleton, membersOf_table] <;>
      assumption
  · intro h
    have hpaths : fieldOr (find? members "endpoints") {} EndpointPaths.ofTree? =
        some settings.endpoints := by
      refine hendpoints.trans (endpointPaths_ofTree?_eq_some_iff.2 ?_)
      simp only [← lookup?_group]
      exact ⟨h .runParamsScript, h .ashxpOptionsScript, h .mapOptionsScript, h .placeholderImage⟩
    have hfeatures : fieldOr (find? members "help_window") WindowFeatures.help
        WindowFeatures.ofTree? = some settings.helpWindow := by
      refine hwindow.trans (windowFeatures_ofTree?_eq_some_iff.2 ?_)
      simp only [← lookup?_group]
      exact ⟨h .toolbar, h .width, h .height, h .scrollbars⟩
    have hsingle : ∀ name (leaf : Leaf), leaf.path = [name] →
        leaf.outcome? (find? members name) = some (leaf.get settings) := by
      intro name leaf hpath
      rw [← h leaf, hpath, lookup?_singleton, membersOf_table]
    exact ⟨_, rfl, _, hpaths, _, hsingle _ .runParamsForm rfl, _, hsingle _ .helpWindowName rfl, _,
      hfeatures, _, hsingle _ .volcanoList rfl, _, hsingle _ .defaultArea rfl, _,
      hsingle _ .eruptionDateCheck rfl, _, hsingle _ .normalizeEruptionDates rfl, rfl⟩

/-- A tree yields settings if every choice that it makes means something. -/
theorem exists_ofTree?_iff {members : Members} (hgroups : GroupsAreTables (table members)) :
    (∃ settings, ofTree? (table members) = some settings) ↔
      ∀ leaf : Leaf, (leaf.outcome? (lookup? (table members) leaf.path)).isSome = true := by
  constructor
  · rintro ⟨settings, h⟩ leaf
    exact Option.isSome_of_eq_some ((ofTree?_eq_some_iff hgroups).1 h leaf)
  · intro h
    refine ⟨ofLeaves fun leaf => (leaf.outcome? (lookup? (table members) leaf.path)).get (h leaf),
      (ofTree?_eq_some_iff hgroups).2 fun leaf => ?_⟩
    rw [get_ofLeaves, Option.some_get]

/-! ## Choices and settled trees -/

theorem toWord?_settled {α : Type} (all : List α) (name : α → String) (members : Members) :
    toWord? all name (table (settled members)) = toWord? all name (table members) := by
  match members with
  | [] => rfl
  | [(s, value)] => simp only [settled, List.map_cons, List.map_nil, toWord?, smallName_smallName]
  | _ :: _ :: _ => rfl

/-- A choice means the same after its tree has been settled. -/
theorem convert_settle (leaf : Leaf) {tree : SettingsTree} (h : WellNamed tree) :
    leaf.convert tree.settle = leaf.convert tree := by
  cases tree with
  | table members =>
    rw [h.settle_eq]
    cases leaf with
    | eruptionDateCheck => exact toWord?_settled _ _ members
    | _ => rfl
  | _ => rfl

end PlumeForm.Settings
