import PlumeForm.Proofs.CommandLine.Dispatch
import PlumeForm.Proofs.Text.Spans

/-!
# Texts on a command line

A text can always be given behind the equals sign of its option, and a date behind `--`. As an
argument of its own it is taken for an option when it begins with a hyphen and has more to it, and
then the command line is refused; every other text is taken as it is (`read_texts`). What is read
determines the run form on which the event of the command is dispatched.
-/

namespace PlumeForm.CommandLine

/-! ## Options among the arguments -/

theorem isOption_iff {text : String} :
    isOption text = true ↔ ∃ c rest, text.toList = '-' :: c :: rest := by
  unfold isOption
  constructor
  · intro h
    split at h
    · next c rest heq => exact ⟨c, rest, heq⟩
    · cases h
  · rintro ⟨c, rest, heq⟩
    simp [heq]

/-- A name that is read again from an argument that has it behind two hyphens. -/
structure IsName (name : String) : Prop where
  nonempty : name ≠ ""
  noEquals : '=' ∉ name.toList
  notHelp : name ≠ "help"

/-- An argument that begins an option with a name. -/
structure Opens (arg : String) : Prop where
  notEnd : arg ≠ "--"
  notHelp : asksForHelp arg = false
  option : isOption arg = true
  named : isNamed arg = true

theorem Opens.of_toList {arg : String} {cs : List Char} (harg : arg.toList = '-' :: '-' :: cs)
    (hcs : cs ≠ []) (hhelp : arg ≠ "--help") : Opens arg where
  notEnd := by
    rintro rfl
    exact hcs (List.cons.inj (List.cons.inj harg).2).2.symm
  notHelp := by
    rw [asksForHelp, harg, decide_eq_false hhelp]
    rfl
  option := isOption_iff.2 ⟨'-', cs, harg⟩
  named := by
    rw [isNamed, harg]
    rfl

section

variable {name value : String}

theorem toList_attached (name value : String) :
    ("--" ++ name ++ "=" ++ value).toList = '-' :: '-' :: (name.toList ++ '=' :: value.toList) := by
  simp

theorem IsName.opens (h : IsName name) : Opens ("--" ++ name) := by
  have harg : ("--" ++ name).toList = '-' :: '-' :: name.toList := by simp
  refine .of_toList harg ?_ ?_
  · intro hnil
    exact h.nonempty (String.toList_eq_nil_iff.1 hnil)
  · intro heq
    have hhelp : name.toList = "help".toList :=
      (List.cons.inj (List.cons.inj (harg.symm.trans (congrArg String.toList heq))).2).2
    exact h.notHelp (String.toList_inj.1 hhelp)

theorem opens_attached (name value : String) : Opens ("--" ++ name ++ "=" ++ value) := by
  refine .of_toList (toList_attached name value) ?_ ?_
  · simp
  · intro heq
    have hmem : '=' ∈ ("--" ++ name ++ "=" ++ value).toList := by simp
    rw [heq] at hmem
    exact absurd hmem (by decide)

theorem IsName.splitOption_eq (h : IsName name) : splitOption ("--" ++ name) = (name, none) := by
  have hdrop : ("--" ++ name).toList.drop 2 = name.toList := by simp
  unfold splitOption
  rw [hdrop, Text.span_of_not_mem h.noEquals]
  simp

theorem IsName.splitOption_attached (h : IsName name) (value : String) :
    splitOption ("--" ++ name ++ "=" ++ value) = (name, some value) := by
  unfold splitOption
  rw [toList_attached, List.drop_succ_cons, List.drop_succ_cons, List.drop_zero,
    Text.span_append_cons h.noEquals]
  simp

end

/-! ## Scanning options -/

namespace Grammar

variable {s : Grammar} {found : Found} {name value : String} {rest : List String}

/-- A known option with a text of its own kind, given for the first time. -/
structure Takes (s : Grammar) (found : Found) (name value : String) : Prop where
  isName : IsName name
  knows : ∃ kind, s.options.find? (fun o => o.1 == name) = some (name, kind) ∧
    kind.accepts value = true
  new : found.value? name = none

theorem Takes.addValue_eq (h : s.Takes found name value) :
    s.addValue found name value = .ok { found with values := found.values ++ [(name, value)] } := by
  obtain ⟨kind, hfind, haccepts⟩ := h.knows
  simp [addValue, hfind, haccepts, h.new]

theorem Takes.knows_eq (h : s.Takes found name value) : s.knows name = true := by
  obtain ⟨kind, hfind, -⟩ := h.knows
  exact List.any_eq_true.2 ⟨_, List.mem_of_find?_eq_some hfind, beq_self_eq_true name⟩

theorem Takes.scan_attached (h : s.Takes found name value) :
    s.scan found (("--" ++ name ++ "=" ++ value) :: rest) =
      s.scan { found with values := found.values ++ [(name, value)] } rest := by
  have hopens := opens_attached name value
  have hsplit := h.isName.splitOption_attached value
  rw [scan.eq_def]
  simp [hopens.notEnd, hopens.notHelp, hopens.option, hopens.named, hsplit, h.addValue_eq]

theorem Takes.scan_separate (h : s.Takes found name value) :
    s.scan found (("--" ++ name) :: value :: rest) =
      if isOption value then .error .wrong
      else s.scan { found with values := found.values ++ [(name, value)] } rest := by
  have hopens := h.isName.opens
  have hsplit := h.isName.splitOption_eq
  rw [scan.eq_def]
  cases hvalue : isOption value <;>
    simp [hopens.notEnd, hopens.notHelp, hopens.option, hopens.named, hsplit, hvalue,
      h.addValue_eq, h.knows_eq]

/-- Another option is taken after one. -/
theorem Takes.after (h : s.Takes found name value) {name' value' : String} (hne : name' ≠ name) :
    s.Takes { found with values := found.values ++ [(name', value')] } name value where
  isName := h.isName
  knows := h.knows
  new := by
    have hnew : found.values.find? (fun v => v.1 == name) = none := Option.map_eq_none_iff.1 h.new
    simp [Found.value?, hnew, hne]

/-- Known options with texts of their own kinds, each given once. -/
structure TakesAll (s : Grammar) (found : Found) (options : List (String × String)) : Prop where
  distinct : (options.map (·.1)).Nodup
  each : ∀ o ∈ options, s.Takes found o.1 o.2

theorem TakesAll.of_cons {o : String × String} {options : List (String × String)}
    (h : s.TakesAll found (o :: options)) :
    s.TakesAll { found with values := found.values ++ [o] } options := by
  obtain ⟨hnew, hdistinct⟩ := List.nodup_cons.1 h.distinct
  refine ⟨hdistinct, ?_⟩
  intro o' ho'
  have hne : o.1 ≠ o'.1 := by
    intro heq
    exact hnew (List.mem_map.2 ⟨o', ho', heq.symm⟩)
  exact (h.each o' (List.mem_cons_of_mem o ho')).after hne

variable {options : List (String × String)}

theorem TakesAll.scan_separate (h : s.TakesAll found options) :
    s.scan found (options.flatMap fun o => ["--" ++ o.1, o.2]) =
      if options.any fun o => isOption o.2 then .error .wrong
      else .ok ({ found with values := found.values ++ options }, []) := by
  induction options generalizing found with
  | nil => simp [scan]
  | cons o options ih =>
    have hfirst : s.Takes found o.1 o.2 := h.each o List.mem_cons_self
    show s.scan found (("--" ++ o.1) :: o.2 :: options.flatMap _) = _
    rw [hfirst.scan_separate, ih h.of_cons, List.any_cons, List.append_assoc]
    cases isOption o.2 <;> rfl

theorem TakesAll.scan_attached (h : s.TakesAll found options) :
    s.scan found (options.map fun o => "--" ++ o.1 ++ "=" ++ o.2) =
      .ok ({ found with values := found.values ++ options }, []) := by
  induction options generalizing found with
  | nil => simp [scan]
  | cons o options ih =>
    have hfirst : s.Takes found o.1 o.2 := h.each o List.mem_cons_self
    rw [List.map_cons, hfirst.scan_attached, ih h.of_cons, List.append_assoc]
    rfl

end Grammar

/-! ## Run options -/

namespace RunTexts

/-- The options of a run form and their texts. -/
def options (texts : RunTexts) : List (String × String) :=
  [("run-hours", texts.runHours), ("erupt-hours", texts.eruptHours),
    ("save-hours", texts.saveHours), ("phi-dist", texts.phiDist),
    ("ash-log-mean", texts.ashLogMean), ("ash-log-sdev", texts.ashLogSdev)]

/-- The command line on which each text is an argument of its own. -/
def separate (texts : RunTexts) : List String :=
  ["reconcile", "--run-hours", texts.runHours, "--erupt-hours", texts.eruptHours, "--save-hours",
    texts.saveHours, "--phi-dist", texts.phiDist, "--ash-log-mean", texts.ashLogMean,
    "--ash-log-sdev", texts.ashLogSdev]

/-- The command line on which each text stands behind the equals sign of its option. -/
def attached (texts : RunTexts) : List String :=
  ["reconcile", "--run-hours=" ++ texts.runHours, "--erupt-hours=" ++ texts.eruptHours,
    "--save-hours=" ++ texts.saveHours, "--phi-dist=" ++ texts.phiDist,
    "--ash-log-mean=" ++ texts.ashLogMean, "--ash-log-sdev=" ++ texts.ashLogSdev]

theorem separate_eq (texts : RunTexts) :
    texts.separate = "reconcile" :: texts.options.flatMap fun o => ["--" ++ o.1, o.2] := rfl

theorem attached_eq (texts : RunTexts) :
    texts.attached = "reconcile" :: texts.options.map fun o => "--" ++ o.1 ++ "=" ++ o.2 := rfl

theorem takesAll (texts : RunTexts) : (⟨runOptions, 0⟩ : Grammar).TakesAll {} texts.options where
  distinct := by
    show ["run-hours", "erupt-hours", "save-hours", "phi-dist", "ash-log-mean",
      "ash-log-sdev"].Nodup
    decide
  each := by
    have hknown : ∀ name ∈ ["run-hours", "erupt-hours", "save-hours", "phi-dist", "ash-log-mean",
        "ash-log-sdev"], (name ≠ "" ∧ '=' ∉ name.toList ∧ name ≠ "help") ∧
          runOptions.find? (fun o => o.1 == name) = some (name, .text) := by decide
    intro o ho
    have hname : o.1 ∈ texts.options.map Prod.fst := List.mem_map_of_mem ho
    obtain ⟨⟨hempty, hequals, hhelp⟩, hfind⟩ := hknown o.1 hname
    exact ⟨⟨hempty, hequals, hhelp⟩, ⟨.text, hfind, rfl⟩, rfl⟩

end RunTexts

/-! ## Reading -/

/-- The command of a name and of the arguments behind it, which its grammar has room for. -/
def commandWith (grammar : Grammar) (name : String) (args : List String) :
    Except UsageError Command :=
  match grammar.scan {} args with
  | .ok (found, []) => commandOf name found
  | .ok _ => .error .wrong
  | .error e => .error e

theorem readCommand_of_grammar {name : String} {grammar : Grammar} {args : List String}
    (hname : name ≠ "help") (hgrammar : grammar? name = some grammar) :
    readCommand (name :: args) = commandWith grammar name args := by
  simp only [readCommand, if_neg hname, hgrammar]
  rfl

/-- A command line that begins with a command is read by the grammar of the command. -/
theorem read_of_grammar {name : String} {grammar : Grammar} {args : List String}
    (hglobal : globalGrammar.scan {} (name :: args) = .ok ({}, name :: args))
    (hname : name ≠ "help") (hgrammar : grammar? name = some grammar) :
    Invocation.read (name :: args) =
      (commandWith grammar name args).map (⟨none, none, ·⟩) := by
  unfold Invocation.read
  rw [hglobal]
  simp only [bind, Except.bind, readCommand_of_grammar hname hgrammar]
  cases commandWith grammar name args with
  | error e => rfl
  | ok command => rfl

theorem read_separate (texts : RunTexts) :
    Invocation.read texts.separate =
      if texts.options.any fun o => isOption o.2 then .error .wrong
      else .ok ⟨none, none, .reconcile texts⟩ := by
  rw [texts.separate_eq, read_of_grammar rfl (by decide) rfl, commandWith,
    texts.takesAll.scan_separate]
  cases texts.options.any fun o => isOption o.2 with
  | true => rfl
  | false => rfl

theorem read_attached (texts : RunTexts) :
    Invocation.read texts.attached = .ok ⟨none, none, .reconcile texts⟩ := by
  rw [texts.attached_eq, read_of_grammar rfl (by decide) rfl, commandWith,
    texts.takesAll.scan_attached]
  rfl

theorem isOption_of_asksForHelp {arg : String} (h : asksForHelp arg = true) :
    isOption arg = true := by
  rcases Bool.or_eq_true_iff.1 h with hlong | hshort
  · rw [of_decide_eq_true hlong]
    rfl
  · obtain ⟨rest, hrest⟩ := List.isPrefixOf_iff_prefix.1 hshort
    exact isOption_iff.2 ⟨'h', rest, hrest.symm⟩

/-- Where one word is expected and no option is known, an option is asked for help or is wrong. -/
theorem scan_word (word : String) :
    (⟨[], 1⟩ : Grammar).scan {} [word] =
      if isOption word then
        if word = "--" then .ok ({}, []) else .error (if asksForHelp word then .help else .wrong)
      else .ok ({ words := [word] }, []) := by
  by_cases hend : word = "--"
  · subst hend
    rfl
  rw [Grammar.scan.eq_def]
  cases hhelp : asksForHelp word with
  | true => simp [hend, hhelp, isOption_of_asksForHelp hhelp]
  | false =>
    cases hoption : isOption word with
    | false => simp [Grammar.addWord, Grammar.scan, hend, hhelp, hoption]
    | true =>
      rcases hsplit : splitOption word with ⟨name, value⟩
      cases value with
      | none => simp [hend, hhelp, hoption, hsplit]
      | some value => simp [hend, hhelp, hoption, hsplit, Grammar.addValue]

theorem read_checkDate (date : String) :
    Invocation.read ["check-date", date] =
      if isOption date then .error (if asksForHelp date then .help else .wrong)
      else .ok ⟨none, none, .checkDate date⟩ := by
  rw [read_of_grammar rfl (by decide) rfl, commandWith, scan_word]
  by_cases hend : date = "--"
  · subst hend
    rfl
  · cases isOption date with
    | false => rfl
    | true =>
      simp only [if_true, if_neg hend, Except.map]

theorem read_checkDate_after (date : String) :
    Invocation.read ["check-date", "--", date] = .ok ⟨none, none, .checkDate date⟩ := by
  rw [read_of_grammar rfl (by decide) rfl]
  rfl

/-! ## Texts on the run form -/

/-- The page on which nothing has happened yet, with the given texts in the eleven controls of its
run form. -/
def pageWith (text : Field → String) : Page where
  runForm := ⟨none, fun f => if f ∈ Field.runControls then some (text f) else none⟩

section

variable {around : Surroundings} {settings : Settings} {args : List String} {event : Event}

theorem shows_of_read {command : Command}
    (hsettings : Settings.load around.files around.environment Settings.defaultFile = .ok settings)
    (hread : Invocation.read args = .ok ⟨none, none, command⟩)
    (hevent : command.event? = some event) (hcommand : ∀ choice, command ≠ .populate choice)
    (hprevious : command.previous? = none) :
    Shows around settings args event (pageWith command.textFor) := by
  have hload : loadSettings around ⟨none, none, command⟩ = .ok settings := by
    rw [loadSettings, hsettings]
    rfl
  have hpage : Setup.page { settings } command = pageWith command.textFor :=
    Setup.page_eq hprevious rfl fun f => rfl
  have hshows := shows_of_setup hread hevent (setup_of_ne_populate hload hcommand)
  rw [hpage] at hshows
  exact hshows

theorem textFor_reconcile (texts : RunTexts) :
    (Command.reconcile texts).textFor = texts.textFor := by
  funext f
  cases f <;> rfl

theorem textFor_checkDate (date : String) :
    (Command.checkDate date).textFor = fun f => if f = .eruptDate then date else "" := by
  funext f
  cases f <;> rfl

/-- Texts that are arguments of their own are refused if one of them is taken for an option, and are
read as they are otherwise; behind equals signs every text is read as it is. The same goes for a
date that is an argument of its own, and for one behind `--`. What is read stands in the run form on
which the options are submitted, or the date is changed. -/
theorem read_texts (texts : RunTexts) (date : String) :
    (Invocation.read texts.separate =
        if texts.options.any fun o => isOption o.2 then .error .wrong
        else .ok ⟨none, none, .reconcile texts⟩) ∧
      Invocation.read texts.attached = .ok ⟨none, none, .reconcile texts⟩ ∧
      (Invocation.read ["check-date", date] =
        if isOption date then .error (if asksForHelp date then .help else .wrong)
        else .ok ⟨none, none, .checkDate date⟩) ∧
      Invocation.read ["check-date", "--", date] = .ok ⟨none, none, .checkDate date⟩ ∧
      ∀ around settings,
        Settings.load around.files around.environment Settings.defaultFile = .ok settings →
        ∀ args,
          (Invocation.read args = .ok ⟨none, none, .reconcile texts⟩ →
            Shows around settings args .runOptionsSubmitted (pageWith texts.textFor)) ∧
          (Invocation.read args = .ok ⟨none, none, .checkDate date⟩ →
            Shows around settings args .eruptDateChanged
              (pageWith fun f => if f = .eruptDate then date else "")) := by
  refine ⟨read_separate texts, read_attached texts, read_checkDate date,
    read_checkDate_after date, ?_⟩
  intro around settings hsettings args
  constructor
  · intro hread
    rw [← textFor_reconcile]
    exact shows_of_read hsettings hread rfl nofun rfl
  · intro hread
    rw [← textFor_checkDate]
    exact shows_of_read hsettings hread rfl nofun rfl

end

/-- A negative mean is refused as an argument of its own and taken behind the equals sign; a
negative date is refused too, and taken behind `--`. -/
theorem read_texts_negative :
    Invocation.read (RunTexts.separate { ashLogMean := "-1.5" }) = .error .wrong ∧
      Shows (bare 0) {} (RunTexts.attached { ashLogMean := "-1.5" }) .runOptionsSubmitted
        (pageWith fun f => if f = .ashLogMean then "-1.5" else "") ∧
      Invocation.read ["check-date", "-1.5"] = .error .wrong ∧
      Shows (bare 0) {} ["check-date", "--", "-1.5"] .eruptDateChanged
        (pageWith fun f => if f = .eruptDate then "-1.5" else "") := by
  obtain ⟨hseparate, hattached, hdate, hafter, hshows⟩ :=
    read_texts { ashLogMean := "-1.5" } "-1.5"
  have hsettings : Settings.load (bare 0).files (bare 0).environment Settings.defaultFile =
      .ok {} := by rfl
  have htext : RunTexts.textFor { ashLogMean := "-1.5" } =
      fun f => if f = .ashLogMean then "-1.5" else "" := by
    funext f
    cases f <;> rfl
  obtain ⟨hreconciled, -⟩ := hshows (bare 0) {} hsettings
    (RunTexts.attached { ashLogMean := "-1.5" })
  obtain ⟨-, hchecked⟩ := hshows (bare 0) {} hsettings ["check-date", "--", "-1.5"]
  rw [htext] at hreconciled
  refine ⟨?_, hreconciled hattached, ?_, hchecked hafter⟩
  · rw [hseparate, if_pos (by decide +kernel)]
  · rw [hdate, if_pos (by decide +kernel)]
    rfl

/-- Not every text is accepted as an argument of its own. -/
theorem negative_texts_refused :
    Invocation.read ["reconcile", "--run-hours", "", "--erupt-hours", "", "--save-hours", "",
        "--phi-dist", "", "--ash-log-mean", "-1.5", "--ash-log-sdev", ""] = .error .wrong ∧
      Invocation.read ["check-date", "-1.5"] = .error .wrong := by
  have hreconcile := read_separate { ashLogMean := "-1.5" }
  have hdate := read_checkDate "-1.5"
  rw [if_pos (by decide +kernel)] at hreconcile hdate
  exact ⟨hreconcile, hdate⟩

end PlumeForm.CommandLine
