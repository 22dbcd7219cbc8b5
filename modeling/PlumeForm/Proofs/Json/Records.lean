import PlumeForm.Json.Domain
import PlumeForm.Proofs.Json.Removal

/-!
# The form's data read back from JSON

Every record is read back from the JSON that is written for it, as a value and from both of its
texts. Where a record has defaults, any of its members may be left out, at both levels, and then
exactly these fields have their defaults (`EndpointPaths.reset`, `WindowFeatures.reset`,
`Settings.reset`).

Doubles have to be finite, since any other is written as `null`. That the text of a double is read
as that double is assumed of the doubles at hand (`DoublesReadBack`); whole numbers need no such
assumption.
-/

namespace PlumeForm

open Json

variable {α : Type} {levels : Nat}

/-! ## Values -/

section Values

theorem toFloat?_ofFloat {x : Float} (h : x.isFinite = true) : (ofFloat x).toFloat? = some x := by
  rw [ofFloat, if_pos h]
  rfl

theorem without_ofText? (gone : List String → Bool) (s : Option String) :
    (ofText? s).without gone = ofText? s := by
  cases s <;> rfl

theorem without_sizeJson (gone : List String → Bool) (n : Option UInt32) :
    (WindowFeatures.sizeJson n).without gone = WindowFeatures.sizeJson n := by
  cases n <;> rfl

theorem without_ofFloat (gone : List String → Bool) (x : Float) :
    (ofFloat x).without gone = ofFloat x := by
  rw [ofFloat]
  split <;> rfl

theorem toOption?_ofText? (s : Option String) : toOption? toText? (ofText? s) = some s := by
  cases s <;> rfl

theorem toUInt32?_ofNat (n : UInt32) : toUInt32? (ofNat n.toNat) = some n := by
  have hbelow : toNatBelow? (2 ^ 32) (ofNat n.toNat) = some n.toNat :=
    if_pos (UInt32.toNat_lt n)
  rw [toUInt32?, hbelow, Option.map_some, UInt32.ofNat_toNat]

theorem toOption?_sizeJson (n : Option UInt32) :
    toOption? toUInt32? (WindowFeatures.sizeJson n) = some n := by
  cases n with
  | none => rfl
  | some n =>
    have hread := toUInt32?_ofNat n
    rw [ofNat] at hread
    simp only [WindowFeatures.sizeJson, ofNat, toOption?, hread, Option.map_some]

theorem toList?_map {read : Json → Option α} {write : α → Json} {as : List α}
    (h : ∀ a ∈ as, read (write a) = some a) : toList? read (.list (as.map write)) = some as := by
  rw [toList?]
  induction as with
  | nil => rfl
  | cons a as ih =>
    obtain ⟨ha, has⟩ := List.forall_mem_cons.1 h
    rw [List.map_cons, List.mapM_cons, ha, ih has]
    rfl

/-- The texts of these doubles, as far as they are finite, are read as the doubles. -/
def DoublesReadBack (xs : List Float) : Prop :=
  ∀ x ∈ xs, x.isFinite = true → ReadsBack (.real x)

theorem readable_ofFloat {xs : List Float} (h : DoublesReadBack xs) :
    ∀ x ∈ xs, Readable levels (ofFloat x) := by
  intro x hx
  rw [ofFloat]
  split
  · next hfinite => exact .number (h x hx hfinite)
  · exact .null

theorem readable_ofText? (s : Option String) : Readable levels (ofText? s) := by
  cases s with
  | none => exact .null
  | some s => exact .text s

theorem readable_sizeJson (n : Option UInt32) : Readable levels (WindowFeatures.sizeJson n) := by
  cases n with
  | none => exact .null
  | some n =>
    have hword : n.toNat ≤ wordMax := Nat.le_trans (Nat.le_of_lt (UInt32.toNat_lt n)) (by decide)
    exact .number (readsBack_natCast hword)

end Values

/-! ## Decoding -/

/-- Reading the value, or either of its texts, comes to the result; the texts as far as these
doubles read back. -/
structure Decodes (read : Json → Option α) (value : Json) (doubles : List Float) (result : α) :
    Prop where
  ofValue : read value = some result
  ofTexts : DoublesReadBack doubles →
    ∀ text ∈ value.texts, (read? text).bind read = some result

theorem Decodes.of_readable {read : Json → Option α} {value : Json} {doubles : List Float}
    {result : α} (hvalue : read value = some result)
    (hread : DoublesReadBack doubles → Readable depthLimit value) :
    Decodes read value doubles result := by
  refine ⟨hvalue, fun hdoubles text htext => ?_⟩
  rw [read?_of_mem_texts (hread hdoubles) htext]
  exact hvalue

/-! ## Records without defaults -/

namespace ErrorReport

theorem ofJson?_toJson (r : ErrorReport) : ofJson? r.toJson = some r := by
  obtain ⟨code, message⟩ := r
  have hcode : ErrorCode.ofJson? code.toJson = some code := by
    cases code <;> rfl
  simp [ofJson?, toJson, Record.required, member?_cons, hcode, toText?]

theorem readable_toJson (r : ErrorReport) : Readable (levels + 1) r.toJson := by
  apply Readable.object
  · simp
  · simp only [List.forall_mem_cons]
    exact ⟨.text _, .text _, List.forall_mem_nil _⟩

end ErrorReport

namespace Volcano

/-- The numbers of the volcano. -/
def doubles (v : Volcano) : List Float := [v.lat, v.lon, v.plumeMin, v.area]

theorem ofJson?_toJson {v : Volcano} (h : ∀ x ∈ v.doubles, x.isFinite = true) :
    ofJson? v.toJson = some v := by
  have hdoubles : ∀ x ∈ v.doubles, (ofFloat x).toFloat? = some x :=
    fun x hx => toFloat?_ofFloat (h x hx)
  simp only [doubles, List.forall_mem_cons] at hdoubles
  obtain ⟨hlat, hlon, hplume, harea, -⟩ := hdoubles
  obtain ⟨name, location, lat, lon, plumeMin, area⟩ := v
  have hlocation : ∀ place : String, toOption? toText? (.text place) = some (some place) :=
    fun _ => rfl
  cases location with
  | none =>
    simp [ofJson?, toJson, locationMember, Record.required, Record.optional, member?_cons, toText?,
      hlat, hlon, hplume, harea]
  | some place =>
    simp [ofJson?, toJson, locationMember, Record.required, Record.optional, member?_cons, toText?,
      hlocation, hlat, hlon, hplume, harea]

theorem readable_toJson {v : Volcano} (h : DoublesReadBack v.doubles) :
    Readable (levels + 1) v.toJson := by
  have hdoubles : ∀ x ∈ v.doubles, Readable levels (ofFloat x) := readable_ofFloat h
  simp only [doubles, List.forall_mem_cons] at hdoubles
  apply Readable.object
  · cases v.location <;> simp [locationMember]
  · cases v.location <;>
      simp [locationMember, hdoubles, Readable.text]

end Volcano

namespace VolcanoTable

/-- The numbers of the table. -/
def doubles (t : VolcanoTable) : List Float := t.entries.flatMap Volcano.doubles

theorem ofJson?_toJson {t : VolcanoTable} (h : ∀ x ∈ t.doubles, x.isFinite = true) :
    ofJson? t.toJson = some t := by
  have hentries : ∀ v ∈ t.entries, Volcano.ofJson? v.toJson = some v := by
    intro v hv
    apply Volcano.ofJson?_toJson
    exact fun x hx => h x (List.mem_flatMap.2 ⟨v, hv, hx⟩)
  simp [ofJson?, toJson, Record.optional, member?_cons, toList?_map hentries]

theorem readable_toJson {t : VolcanoTable} (h : DoublesReadBack t.doubles) :
    Readable (levels + 3) t.toJson := by
  have hentries : ∀ v ∈ t.entries.map Volcano.toJson, Readable (levels + 1) v := by
    intro value hvalue
    obtain ⟨v, hv, rfl⟩ := List.mem_map.1 hvalue
    exact Volcano.readable_toJson fun x hx => h x (List.mem_flatMap.2 ⟨v, hv, hx⟩)
  apply Readable.object
  · simp
  · simp only [List.forall_mem_cons]
    exact ⟨.list hentries, List.forall_mem_nil _⟩

end VolcanoTable

/-! ## Records with defaults -/

variable (gone : List String → Bool)

namespace EndpointPaths

/-- The paths with defaults for the members that are gone. -/
def reset (p : EndpointPaths) : EndpointPaths :=
  let base : EndpointPaths := {}
  { runParamsScript := if gone ["run_params_script"] then base.runParamsScript else p.runParamsScript
    ashxpOptionsScript :=
      if gone ["ashxp_options_script"] then base.ashxpOptionsScript else p.ashxpOptionsScript
    mapOptionsScript :=
      if gone ["map_options_script"] then base.mapOptionsScript else p.mapOptionsScript
    placeholderImage :=
      if gone ["placeholder_image"] then base.placeholderImage else p.placeholderImage }

theorem ofJson?_without (p : EndpointPaths) :
    ofJson? (p.toJson.without gone) = some (p.reset gone) := by
  simp only [ofJson?, toJson, without, Record.ofJson?_object, Option.bind_eq_bind, Option.bind_some]
  refine Record.bind_optional_membersWithout 0 rfl (fun _ => rfl) ?_
  refine Record.bind_optional_membersWithout 1 rfl (fun _ => rfl) ?_
  refine Record.bind_optional_membersWithout 2 rfl (fun _ => rfl) ?_
  refine Record.bind_optional_membersWithout 3 rfl (fun _ => rfl) ?_
  rfl

theorem reset_false (p : EndpointPaths) : p.reset (fun _ => false) = p := rfl

theorem readable_toJson (p : EndpointPaths) : Readable (levels + 1) p.toJson := by
  apply Readable.object
  · simp
  · simp only [List.forall_mem_cons]
    exact ⟨.text _, .text _, .text _, .text _, List.forall_mem_nil _⟩

end EndpointPaths

namespace WindowFeatures

/-- The features with those of the help window for the members that are gone. -/
def reset (f : WindowFeatures) : WindowFeatures where
  toolbar := if gone ["toolbar"] then help.toolbar else f.toolbar
  width := if gone ["width"] then help.width else f.width
  height := if gone ["height"] then help.height else f.height
  scrollbars := if gone ["scrollbars"] then help.scrollbars else f.scrollbars

theorem ofJson?_without (f : WindowFeatures) :
    ofJson? (f.toJson.without gone) = some (f.reset gone) := by
  have hsize : ∀ (path : List String → Bool) (n : Option UInt32),
      toOption? toUInt32? ((sizeJson n).without path) = some n := by
    intro path n
    rw [without_sizeJson, toOption?_sizeJson]
  simp only [ofJson?, toJson, without, Record.ofJson?_object, Option.bind_eq_bind, Option.bind_some]
  refine Record.bind_optional_membersWithout 0 rfl (fun _ => rfl) ?_
  refine Record.bind_optional_membersWithout 1 rfl (fun _ => hsize _ _) ?_
  refine Record.bind_optional_membersWithout 2 rfl (fun _ => hsize _ _) ?_
  refine Record.bind_optional_membersWithout 3 rfl (fun _ => rfl) ?_
  rfl

theorem reset_false (f : WindowFeatures) : f.reset (fun _ => false) = f := rfl

theorem ofJson?_toJson (f : WindowFeatures) : ofJson? f.toJson = some f := by
  have hread := ofJson?_without (fun _ => false) f
  rwa [without_false, reset_false] at hread

theorem readable_toJson (f : WindowFeatures) : Readable (levels + 1) f.toJson := by
  apply Readable.object
  · simp
  · simp only [List.forall_mem_cons]
    exact ⟨.bool _, readable_sizeJson _, readable_sizeJson _, .bool _, List.forall_mem_nil _⟩

end WindowFeatures

namespace Settings

/-- The settings with defaults for the members that are gone, at both levels. -/
def reset (s : Settings) : Settings :=
  let base : Settings := {}
  { endpoints :=
      if gone ["endpoints"] then base.endpoints
      else s.endpoints.reset fun path => gone ("endpoints" :: path)
    runParamsForm := if gone ["run_params_form"] then base.runParamsForm else s.runParamsForm
    helpWindowName := if gone ["help_window_name"] then base.helpWindowName else s.helpWindowName
    helpWindow :=
      if gone ["help_window"] then base.helpWindow
      else s.helpWindow.reset fun path => gone ("help_window" :: path)
    volcanoList := if gone ["volcano_list"] then base.volcanoList else s.volcanoList
    defaultArea := if gone ["default_area"] then base.defaultArea else s.defaultArea
    eruptionDateCheck :=
      if gone ["eruption_date_check"] then base.eruptionDateCheck else s.eruptionDateCheck
    normalizeEruptionDates :=
      if gone ["normalize_eruption_dates"] then base.normalizeEruptionDates
      else s.normalizeEruptionDates }

theorem ofJson?_without {gone : List String → Bool} {s : Settings}
    (harea : gone ["default_area"] = false → s.defaultArea.isFinite = true) :
    ofJson? (s.toJson.without gone) = some (s.reset gone) := by
  have hlist : ∀ path : List String → Bool,
      toOption? toText? ((ofText? s.volcanoList).without path) = some s.volcanoList := by
    intro path
    rw [without_ofText?, toOption?_ofText?]
  -- An area that is gone is not read, so it need not be finite.
  have hdouble : ∀ path : List String → Bool, gone ["default_area"] = false →
      ((ofFloat s.defaultArea).without path).toFloat? = some s.defaultArea := by
    intro path hkept
    rw [without_ofFloat, toFloat?_ofFloat (harea hkept)]
  have hcheck : ∀ path : List String → Bool,
      DateCheck.ofJson? (s.eruptionDateCheck.toJson.without path) = some s.eruptionDateCheck := by
    intro path
    cases s.eruptionDateCheck <;> rfl
  simp only [ofJson?, toJson, without, Record.ofJson?_object, Option.bind_eq_bind, Option.bind_some]
  refine Record.bind_optional_membersWithout 0 rfl (fun _ => EndpointPaths.ofJson?_without _ _) ?_
  refine Record.bind_optional_membersWithout 1 rfl (fun _ => rfl) ?_
  refine Record.bind_optional_membersWithout 2 rfl (fun _ => rfl) ?_
  refine Record.bind_optional_membersWithout 3 rfl (fun _ => WindowFeatures.ofJson?_without _ _) ?_
  refine Record.bind_optional_membersWithout 4 rfl (fun _ => hlist _) ?_
  refine Record.bind_optional_membersWithout 5 rfl (hdouble _) ?_
  refine Record.bind_optional_membersWithout 6 rfl (fun _ => hcheck _) ?_
  refine Record.bind_optional_membersWithout 7 rfl (fun _ => rfl) ?_
  rfl

theorem reset_false (s : Settings) : s.reset (fun _ => false) = s := rfl

theorem readable_toJson {s : Settings} (h : DoublesReadBack [s.defaultArea]) :
    Readable (levels + 2) s.toJson := by
  apply Readable.object
  · simp
  · simp only [List.forall_mem_cons]
    exact ⟨s.endpoints.readable_toJson, .text _, .text _, s.helpWindow.readable_toJson,
      readable_ofText? _, readable_ofFloat h _ List.mem_cons_self, .text _, .bool _,
      List.forall_mem_nil _⟩

end Settings

namespace WindowRequest

theorem ofJson?_toJson (r : WindowRequest) : ofJson? r.toJson = some r := by
  obtain ⟨url, name, features⟩ := r
  have hfeatures : ∀ f : WindowFeatures,
      toOption? WindowFeatures.ofJson? f.toJson = some (some f) := by
    intro f
    have hread := f.ofJson?_toJson
    rw [WindowFeatures.toJson] at hread ⊢
    simp only [toOption?, hread, Option.map_some]
  have hname : ∀ n : String, toOption? toText? (.text n) = some (some n) := fun _ => rfl
  cases name <;> cases features <;>
    simp [ofJson?, toJson, nameMember, featuresMember, Record.required, Record.optional,
      member?_cons, toText?, hname, hfeatures]

theorem readable_toJson (r : WindowRequest) : Readable (levels + 2) r.toJson := by
  obtain ⟨url, name, features⟩ := r
  apply Readable.object
  · cases name <;> cases features <;> simp [nameMember, featuresMember]
  · cases name <;> cases features <;>
      simp [nameMember, featuresMember, Readable.text, WindowFeatures.readable_toJson]

end WindowRequest

/-! ## All of them -/

/-- Every record with finite doubles is read back from its JSON. Without some of the members, at
whichever level, the paths, the features and the settings are read back with defaults for just
these; there only a double that is left has to be finite. -/
theorem decodes_written :
    (∀ v : Volcano, (∀ x ∈ v.doubles, x.isFinite = true) →
      Decodes Volcano.ofJson? v.toJson v.doubles v) ∧
    (∀ t : VolcanoTable, (∀ x ∈ t.doubles, x.isFinite = true) →
      Decodes VolcanoTable.ofJson? t.toJson t.doubles t) ∧
    (∀ r : WindowRequest, Decodes WindowRequest.ofJson? r.toJson [] r) ∧
    (∀ r : ErrorReport, Decodes ErrorReport.ofJson? r.toJson [] r) ∧
    (∀ p : EndpointPaths, Decodes EndpointPaths.ofJson? p.toJson [] p ∧
      ∀ gone, Decodes EndpointPaths.ofJson? (p.toJson.without gone) [] (p.reset gone)) ∧
    (∀ f : WindowFeatures, Decodes WindowFeatures.ofJson? f.toJson [] f ∧
      ∀ gone, Decodes WindowFeatures.ofJson? (f.toJson.without gone) [] (f.reset gone)) ∧
    ∀ s : Settings,
      (s.defaultArea.isFinite = true → Decodes Settings.ofJson? s.toJson [s.defaultArea] s) ∧
      ∀ gone, (gone ["default_area"] = false → s.defaultArea.isFinite = true) →
        Decodes Settings.ofJson? (s.toJson.without gone) [s.defaultArea] (s.reset gone) := by
  refine ⟨?volcano, ?table, ?request, ?report, ?paths, ?features, ?settings⟩
  case volcano =>
    intro v hfinite
    exact .of_readable (Volcano.ofJson?_toJson hfinite) Volcano.readable_toJson
  case table =>
    intro t hfinite
    exact .of_readable (VolcanoTable.ofJson?_toJson hfinite) VolcanoTable.readable_toJson
  case request =>
    intro r
    exact .of_readable r.ofJson?_toJson fun _ => r.readable_toJson
  case report =>
    intro r
    exact .of_readable r.ofJson?_toJson fun _ => r.readable_toJson
  case paths =>
    intro p
    have hgone : ∀ gone,
        Decodes EndpointPaths.ofJson? (p.toJson.without gone) [] (p.reset gone) :=
      fun gone => .of_readable (p.ofJson?_without gone) fun _ => p.readable_toJson.without gone
    have hall := hgone fun _ => false
    rw [without_false, EndpointPaths.reset_false] at hall
    exact ⟨hall, hgone⟩
  case features =>
    intro f
    have hgone : ∀ gone,
        Decodes WindowFeatures.ofJson? (f.toJson.without gone) [] (f.reset gone) :=
      fun gone => .of_readable (f.ofJson?_without gone) fun _ => f.readable_toJson.without gone
    have hall := hgone fun _ => false
    rw [without_false, WindowFeatures.reset_false] at hall
    exact ⟨hall, hgone⟩
  case settings =>
    intro s
    have hgone : ∀ gone, (gone ["default_area"] = false → s.defaultArea.isFinite = true) →
        Decodes Settings.ofJson? (s.toJson.without gone) [s.defaultArea] (s.reset gone) :=
      fun gone harea => .of_readable (Settings.ofJson?_without harea)
        fun h => (Settings.readable_toJson h).without gone
    refine ⟨fun harea => ?_, hgone⟩
    have hall := hgone (fun _ => false) fun _ => harea
    rwa [without_false, Settings.reset_false] at hall

/-- Settings whose area is no number. -/
def unmeasured : Settings where
  runParamsForm := "params"
  helpWindow := ⟨true, none, some 640, true⟩
  volcanoList := some "volcanos.txt"
  defaultArea := 0 / 0

/-- A table is read from its text. Settings without their area, which is no number, and without one
of the paths and a height are read from theirs. -/
theorem decodes_written_augustine :
    (read? ("\x7b\"volcano\":[\x7b\"name\":\"Augustine\",\"lat\":59.36,\"lon\":-153.43," ++
          "\"plume_min\":1252.0,\"area\":0.0\x7d]\x7d")).bind VolcanoTable.ofJson? =
        some ⟨[⟨"Augustine", none, 59.36, -153.43, 1252, 0⟩]⟩ ∧
      (read? (unmeasured.toJson.without [["default_area"], ["endpoints", "map_options_script"],
          ["help_window", "height"]].contains).spread).bind Settings.ofJson? =
        some { unmeasured with helpWindow := ⟨true, none, some 200, true⟩, defaultArea := 0 } := by
  constructor
  · have hfinite : ∀ x ∈ [59.36, -153.43, 1252, 0], Float.isFinite x = true := by decide +kernel
    have hdoubles : DoublesReadBack [59.36, -153.43, 1252, 0] := by
      unfold DoublesReadBack ReadsBack
      decide +kernel
    have htext : (VolcanoTable.toJson ⟨[⟨"Augustine", none, 59.36, -153.43, 1252, 0⟩]⟩).compact =
        "\x7b\"volcano\":[\x7b\"name\":\"Augustine\",\"lat\":59.36,\"lon\":-153.43," ++
          "\"plume_min\":1252.0,\"area\":0.0\x7d]\x7d" := by
      decide +kernel
    have htable := decodes_written.2.1 ⟨[⟨"Augustine", none, 59.36, -153.43, 1252, 0⟩]⟩ hfinite
    exact htable.ofTexts hdoubles _ (htext ▸ List.mem_cons_self)
  · have hdoubles : DoublesReadBack [unmeasured.defaultArea] := by
      unfold DoublesReadBack ReadsBack
      decide +kernel
    have hsettings := (decodes_written.2.2.2.2.2.2 unmeasured).2
      [["default_area"], ["endpoints", "map_options_script"], ["help_window", "height"]].contains
      fun hkept => absurd hkept (by decide)
    exact hsettings.ofTexts hdoubles _ (List.mem_cons_of_mem _ List.mem_cons_self)

end PlumeForm
