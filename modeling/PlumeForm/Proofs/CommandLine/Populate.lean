import PlumeForm.Proofs.CommandLine.Texts
import PlumeForm.Proofs.Page.Selector
import PlumeForm.Proofs.Volcano.Names

/-!
# A volcano by its name or by its index

The command `populate` is given a name or an index. A name stands for the index of the first record
that has it, so that both ways show the same transcript, of a volcano that is found; a name that no
record has is refused before anything is shown (`populate_by_name`). This holds behind all options
that may stand before a command, since these are read without what follows (`Grammar.scan_append`).
-/

namespace PlumeForm.CommandLine

/-! ## Options before a command -/

namespace Grammar

/-- The front of a command line is read without what stands behind it, unless `--` makes all of this
words. -/
theorem scan_append {s : Grammar} {found found' : Found} {front : List String}
    (hend : "--" ∉ front) (h : s.scan found front = .ok (found', [])) (rest : List String) :
    s.scan found (front ++ rest) = s.scan found' rest := by
  fun_induction s.scan found front with
  | case1 found =>
    cases h
    rfl
  | case2 found words => exact absurd List.mem_cons_self hend
  | case4 found arg args hne hhelp hword found₁ hadd ih =>
    rw [← ih (List.not_mem_of_not_mem_cons hend) h, List.cons_append, scan.eq_def]
    simp [hne, hhelp, hword, hadd]
  | case7 found arg hne hhelp hoption hnamed name value args hsplit found₁ hadd ih =>
    rw [← ih (List.not_mem_of_not_mem_cons hend) h, List.cons_append, scan.eq_def]
    simp [hne, hhelp, hoption, hnamed, hsplit, hadd]
  | case9 found arg hne hhelp hoption hnamed name value args hsplit hvalue found₁ hadd ih =>
    have hargs := List.not_mem_of_not_mem_cons (List.not_mem_of_not_mem_cons hend)
    rw [← ih hargs h, List.cons_append, List.cons_append, scan.eq_def]
    simp [hne, hhelp, hoption, hnamed, hsplit, hvalue, hadd]
  | case3 | case5 | case6 | case8 | case10 | case11 | case12 => cases h

end Grammar

/-- The invocation of a command behind the options that were found. -/
def Found.invocation (found : Found) (command : Command) : Invocation :=
  ⟨found.value? "settings", found.value? "volcano-list", command⟩

/-- Options that may stand before a command, and what is found in them. -/
structure Precedes (options : List String) (found : Found) : Prop where
  notEnd : "--" ∉ options
  scan_eq : globalGrammar.scan {} options = .ok (found, [])

/-- What is no option ends the options before a command. -/
theorem scan_command {found : Found} {name : String} (hname : isOption name = false)
    (args : List String) :
    globalGrammar.scan found (name :: args) = .ok (found, name :: args) := by
  have hend : name ≠ "--" := by
    rintro rfl
    cases hname
  have hhelp : asksForHelp name = false := by
    cases hhelp : asksForHelp name with
    | false => rfl
    | true =>
      rw [isOption_of_asksForHelp hhelp] at hname
      cases hname
  have hroom : ¬ found.words.length < globalGrammar.words := Nat.not_lt_zero _
  rw [Grammar.scan.eq_def]
  simp [hend, hhelp, hname, Grammar.addWord, hroom]

/-! ## Reading a choice -/

/-- The options and words of the command that selects a volcano. -/
def choiceGrammar : Grammar :=
  ⟨[("index", .index), ("name", .text)], 0⟩

theorem readIndex?_toString {i : Nat} (h : i < 2 ^ 64) : readIndex? (toString i) = some i := by
  have htext : (toString i).toList = Nat.toDigits 10 i := Nat.toList_repr
  rw [readIndex?, htext, Text.readUnsigned?_toDigits]
  exact if_pos h

namespace Precedes

variable {options : List String} {found : Found}

/-- A command behind options is read by its own grammar. -/
theorem read_eq (h : Precedes options found) {name : String} {grammar : Grammar}
    (hname : isOption name = false) (hhelp : name ≠ "help")
    (hgrammar : grammar? name = some grammar) (args : List String) :
    Invocation.read (options ++ name :: args) =
      (commandWith grammar name args).map found.invocation := by
  unfold Invocation.read
  rw [Grammar.scan_append h.notEnd h.scan_eq, scan_command hname]
  simp only [bind, Except.bind, readCommand_of_grammar hhelp hgrammar]
  cases commandWith grammar name args with
  | error e => rfl
  | ok command => rfl

theorem read_choice (h : Precedes options found) {option value : String}
    (htakes : choiceGrammar.Takes {} option value) :
    Invocation.read (options ++ ["populate", "--" ++ option ++ "=" ++ value]) =
      ((choiceOf { values := [(option, value)] }).map .populate).map found.invocation := by
  have hname : isOption "populate" = false := by decide +kernel
  have hgrammar : grammar? "populate" = some choiceGrammar := rfl
  rw [h.read_eq hname (by decide) hgrammar, commandWith, htakes.scan_attached, Grammar.scan]
  rfl

theorem read_name (h : Precedes options found) (name : String) :
    Invocation.read (options ++ ["populate", "--name=" ++ name]) =
      .ok (found.invocation (.populate (some (.byName name)))) := by
  have htakes : choiceGrammar.Takes {} "name" name :=
    ⟨⟨by decide, by decide, by decide⟩, ⟨.text, rfl, rfl⟩, rfl⟩
  exact h.read_choice htakes

theorem read_index (h : Precedes options found) {index : String} {i : Nat}
    (hindex : readIndex? index = some i) :
    Invocation.read (options ++ ["populate", "--index=" ++ index]) =
      .ok (found.invocation (.populate (some (.byIndex i)))) := by
  have haccepts : ValueKind.index.accepts index = true := by
    rw [ValueKind.accepts, hindex]
    rfl
  have htakes : choiceGrammar.Takes {} "index" index :=
    ⟨⟨by decide, by decide, by decide⟩, ⟨.index, rfl, haccepts⟩, rfl⟩
  have hchoice : choiceOf { values := [("index", index)] } = .ok (some (.byIndex i)) := by
    show Except.ok ((readIndex? index).map Choice.byIndex) = _
    rw [hindex]
    rfl
  refine (h.read_choice htakes).trans ?_
  rw [hchoice]
  rfl

end Precedes

/-! ## Carrying it out -/

/-- The page on which the volcano at an index of the table has filled its controls. -/
def pageOfVolcano (table : VolcanoTable) (index : Nat) (volcano : Volcano) : Page where
  runForm := (Form.run.select index).putAll (Selection.texts volcano)
  volcanoes := table

/-- Options before a command with which a command finds the settings and the volcano table. -/
structure Loads (around : Surroundings) (options : List String) (found : Found)
    (settings : Settings) (table : VolcanoTable) : Prop extends Precedes options found where
  loadsSettings : loadSettings around (found.invocation .volcanoes) = .ok settings
  loadsTable : loadVolcanoes around (found.invocation .volcanoes) settings = .ok table

namespace Loads

variable {around : Surroundings} {options : List String} {found : Found} {settings : Settings}
  {table : VolcanoTable} {choice : Option Choice}

/-- Neither the settings nor the list depend on the choice. -/
theorem run_populate (h : Loads around options found settings table) (choice : Option Choice) :
    run around (found.invocation (.populate choice)) =
      populate around (found.invocation (.populate choice)) settings choice := by
  have hsettings : loadSettings around (found.invocation (.populate choice)) = .ok settings :=
    h.loadsSettings
  unfold run
  rw [hsettings]
  rfl

theorem run_populate_of_error (h : Loads around options found settings table)
    {reasons : List String} (hindex : indexOf table choice = .error reasons) :
    run around (found.invocation (.populate choice)) = .refused reasons := by
  have htable : loadVolcanoes around (found.invocation (.populate choice)) settings = .ok table :=
    h.loadsTable
  rw [h.run_populate]
  simp only [populate, htable, hindex]

/-- A choice that comes to a record of the table succeeds. -/
theorem run_populate_of_index (h : Loads around options found settings table) {i : Nat}
    {volcano : Volcano} (hindex : indexOf table choice = .ok i)
    (hvolcano : table.entries[i]? = some volcano) :
    run around (found.invocation (.populate choice)) =
      { output :=
          shown (transcript (.ok (.volcanoPopulated volcano)) (pageOfVolcano table i volcano))
        failure := none } := by
  have htable : loadVolcanoes around (found.invocation (.populate choice)) settings = .ok table :=
    h.loadsTable
  have hcontrols : ∀ f ∈ Selection.controls, Form.run.has f = true := by decide
  rw [h.run_populate]
  simp only [populate, htable, hindex]
  exact fire_eq (dispatch_volcanoSelected_of_get settings around.now rfl hvolcano hcontrols)

end Loads

/-- The index of a name is that of the first record that has it, whatever the case of its letters.
Behind options with which the volcano table is loaded, a name that some record has succeeds and
shows the volcano at its index, populated, and the index comes to the same (an index is a number of
64 bits). A name that no record has fails, and nothing is shown. -/
theorem populate_by_name (table : VolcanoTable) (name : String) :
    (∀ i, table.position? name = some i ↔
      table.NamedAt name i ∧ ∀ j < i, ¬ table.NamedAt name j) ∧
    (∀ name', Text.SameButCase name name' → table.position? name = table.position? name') ∧
    ∀ around options found settings, Loads around options found settings table →
      let byName := Invocation.read (options ++ ["populate", "--name=" ++ name])
      (∀ i, table.position? name = some i →
        let byIndex := Invocation.read (options ++ ["populate", "--index=" ++ toString i])
        ∃ volcano, table.entries[i]? = some volcano ∧
          byName.map (run around) =
            .ok { output := shown (transcript (.ok (.volcanoPopulated volcano))
                    (pageOfVolcano table i volcano))
                  failure := none } ∧
          (i < 2 ^ 64 → byIndex.map (run around) = byName.map (run around))) ∧
      (table.position? name = none →
        byName.map (run around) =
          .ok { output := "", failure := some ["no volcano named '" ++ name ++ "'"] }) := by
  refine ⟨fun i => VolcanoTable.position?_eq_some_iff,
    fun name' hname' => VolcanoTable.position?_congr hname', ?_⟩
  intro around options found settings hloads byName
  have hbyName : byName = .ok (found.invocation (.populate (some (.byName name)))) :=
    hloads.read_name name
  constructor
  · intro i hposition byIndex
    obtain ⟨⟨volcano, hvolcano, -⟩, -⟩ := VolcanoTable.position?_eq_some_iff.1 hposition
    have hindex : indexOf table (some (.byName name)) = .ok i := by rw [indexOf, hposition]
    have hrun := hloads.run_populate_of_index hindex hvolcano
    refine ⟨volcano, hvolcano, ?_, ?_⟩
    · rw [hbyName]
      exact congrArg Except.ok hrun
    · intro hbits
      have hbyIndex : byIndex = .ok (found.invocation (.populate (some (.byIndex i)))) :=
        hloads.read_index (readIndex?_toString hbits)
      rw [hbyIndex, hbyName]
      refine congrArg Except.ok ?_
      rw [hrun]
      exact hloads.run_populate_of_index rfl hvolcano
  · intro hposition
    have hindex : indexOf table (some (.byName name)) =
        .error ["no volcano named '" ++ name ++ "'"] := by rw [indexOf, hposition]
    rw [hbyName]
    exact congrArg Except.ok (hloads.run_populate_of_error hindex)

/-- A listing in which two names differ in case only, and one begins with a letter beyond ASCII. -/
def islandListing : String :=
  "Puff Volcano Listing File\nÖræfa::64:N:17:W:2110\nOkmok::53.4:N:168.1:W:1073\nOKMOK::0:N:0:E:0\n"

/-- The volcanoes of the listing. -/
def islands : VolcanoTable :=
  ⟨[⟨"Öræfa", none, 64, -17, 2110, 0⟩, ⟨"Okmok", none, 53.4, -168.1, 1073, 0⟩,
    ⟨"OKMOK", none, 0, 0, 0, 0⟩]⟩

/-- The first of two volcanoes with the same letters is meant. A letter beyond ASCII has no other
case. -/
theorem populate_by_name_islands :
    let around : Surroundings := ⟨.ofPaths [("islands.txt", islandListing.toUTF8)], [], 0⟩
    let conclude := fun choice =>
      (Invocation.read ["--volcano-list=islands.txt", "populate", choice]).map (run around)
    conclude "--name=oKMOK" = conclude "--index=1" ∧
      (∃ output, conclude "--name=oKMOK" = .ok { output := output, failure := none }) ∧
      conclude "--name=öræfa" =
        .ok { output := "", failure := some ["no volcano named 'öræfa'"] } := by
  intro around conclude
  have hloads : Loads around ["--volcano-list=islands.txt"]
      { values := [("volcano-list", "islands.txt")] } {} islands :=
    ⟨⟨by decide, by decide +kernel⟩, by rfl, by decide +kernel⟩
  obtain ⟨-, -, hname⟩ := populate_by_name islands "oKMOK"
  obtain ⟨volcano, -, hshown, hindex⟩ := (hname _ _ _ _ hloads).1 1 (by decide +kernel)
  obtain ⟨-, -, hother⟩ := populate_by_name islands "öræfa"
  exact ⟨(hindex (by decide)).symm, ⟨_, hshown⟩, (hother _ _ _ _ hloads).2 (by decide +kernel)⟩

end PlumeForm.CommandLine
