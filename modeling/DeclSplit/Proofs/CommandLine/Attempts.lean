import DeclSplit.Proofs.CommandLine.ErrorLines
import DeclSplit.Proofs.Split.Conflicts
import DeclSplit.Proofs.Split.Stages

/-! Attempts: the command lines that come to a split.  All others leave files alone. -/

namespace DeclSplit.CommandLine

open FileTree (Action)

variable {tree : FileTree} {arguments : List OsText} {input dir : Path} {options : SplitOptions} {config : Config}

inductive Configured (tree : FileTree) : Config → Prop
  | absent : tree.exists_ Config.fileName = false → Configured tree {}
  | present {source config} : tree.exists_ Config.fileName = true →
      tree.readText Config.fileName = .ok source → Config.parse source = .ok config → Configured tree config

lemma load_config (tree : FileTree) : (Config.loadOrDefault : Action _) tree =
    (if tree.exists_ Config.fileName then
      match tree.readText Config.fileName with
      | .error cause => .error (.unreadable cause)
      | .ok source => Config.parse source
    else .ok {}, tree) := by
  simp only [Config.loadOrDefault, Config.load, FileTree.run_bind, FileTree.run_exists_, FileTree.run_pure]
  split
  · simp only [FileTree.run_bind, FileTree.run_readText]
    cases tree.readText Config.fileName with
    | error cause => rfl
    | ok source =>
      simp only [FileTree.run_pure]
      cases Config.parse source <;> rfl
  · rfl

lemma configured_iff : ((Config.loadOrDefault : Action _) tree).1 = .ok config ↔ Configured tree config := by
  rw [load_config]
  constructor
  · intro h
    split at h
    · rename_i hx
      split at h
      · cases h
      · rename_i source hs
        exact .present hx hs h
    · rename_i hx
      cases h
      exact .absent (by simpa using hx)
  · intro h
    cases h with
    | absent hx => simp [hx]
    | present hx hs hc => simp [hx, hs, hc]

lemma Configured.unique {other : Config} (h : Configured tree config) (h' : Configured tree other) :
    config = other :=
  Except.ok.inj ((configured_iff.mpr h).symm.trans (configured_iff.mpr h'))

lemma run_configured (hc : Configured tree config) (invocation : Invocation) :
    (invocation.run : Action RunResult) tree = (invocation.command.run config : Action RunResult) tree := by
  have hl : (Config.loadOrDefault : Action _) tree = (.ok config, tree) :=
    Prod.ext (configured_iff.mpr hc) (by rw [load_config])
  simp only [Invocation.run, FileTree.run_bind, hl]

lemma run_cases (tree : FileTree) (invocation : Invocation) :
    (∃ cause, (invocation.run : Action RunResult) tree = (.badConfig cause, tree)) ∨
      ∃ config, Configured tree config ∧
        (invocation.run : Action RunResult) tree = (invocation.command.run config : Action RunResult) tree := by
  cases hl : ((Config.loadOrDefault : Action _) tree).1 with
  | error cause =>
    have hload : (Config.loadOrDefault : Action _) tree = (.error cause, tree) :=
      Prod.ext hl (by rw [load_config])
    refine .inl ⟨cause, ?_⟩
    simp only [Invocation.run, FileTree.run_bind, hload]
    rfl
  | ok config =>
    have hc := configured_iff.mp hl
    exact .inr ⟨config, hc, run_configured hc invocation⟩

lemma run_create {output : Option Path} {overwrite json : Bool} {mode : Option MatchMode} {attempt : SplitAttempt}
    {final : FileTree} (ho : options = ⟨overwrite || config.overwrite.getD false,
      (mode.or config.mode).getD default, config.extension⟩)
    (h : (splitInto input (output.or (config.output.map Path.mk)) options : Action _) tree = (attempt, final)) :
    ((Command.create input output overwrite mode json).run config : Action RunResult) tree =
      (.created json attempt, final) := by
  subst ho
  simp only [Command.run, FileTree.run_bind, h]
  rfl

inductive Asked (tree : FileTree) (arguments : List OsText) (input dir : Path) (options : SplitOptions) : Prop
  | create {debug output overwrite mode json config}
      (parsed : parse arguments = .ok (.run ⟨debug, .create input output overwrite mode json⟩))
      (configured : Configured tree config) (directory : output.or (config.output.map Path.mk) = some dir)
      (settled : options = ⟨overwrite || config.overwrite.getD false, (mode.or config.mode).getD default,
        config.extension⟩)

lemma Asked.unique {input' dir' : Path} {options' : SplitOptions} (h : Asked tree arguments input dir options)
    (h' : Asked tree arguments input' dir' options') : input' = input ∧ dir' = dir ∧ options' = options := by
  obtain ⟨hp, hc, hd, rfl⟩ := h
  obtain ⟨hp', hc', hd', rfl⟩ := h'
  cases hp.symm.trans hp'
  cases hc.unique hc'
  cases hd.symm.trans hd'
  exact ⟨rfl, rfl, rfl⟩

structure Attempts (tree : FileTree) (arguments : List OsText) (input dir : Path) (options : SplitOptions) :
    Prop where
  asked : Asked tree arguments input dir options
  free : ∃ names, tree.inTheWay dir (options.extensionFor input) = .ok names ∧
    (options.overwrite = true ∨ names = [])

lemma run_splitInto_eq (tree : FileTree) (input dir : Path) (options : SplitOptions) :
    (splitInto input (some dir) options : Action _) tree =
      match tree.inTheWay dir (options.extensionFor input) with
      | .error cause => (.unlisted dir cause, tree)
      | .ok names =>
        if !names.isEmpty && !options.overwrite then (.inTheWay names, tree)
        else
          let ending := (splitFile input (some dir) options : Action _) tree
          (.tried names ending.1, ending.2) := by
  simp only [splitInto, FileTree.run_bind, FileTree.run_existingOutputs]
  cases tree.inTheWay dir (options.extensionFor input) with
  | error cause => rfl
  | ok names =>
    simp only
    split <;> rfl

lemma run_splitInto {names : List Text} (hn : tree.inTheWay dir (options.extensionFor input) = .ok names)
    (ho : options.overwrite = true ∨ names = []) :
    (splitInto input (some dir) options : Action _) tree =
      let ending := (splitFile input (some dir) options : Action _) tree
      (.tried names ending.1, ending.2) := by
  have hp : (!names.isEmpty && !options.overwrite) = false := by
    rcases ho with ho | rfl <;> simp [*]
  simp [run_splitInto_eq, hn, hp]

lemma run_splitInto_inTheWay {names : List Text}
    (hn : tree.inTheWay dir (options.extensionFor input) = .ok names) (ho : options.overwrite = false)
    (hne : names ≠ []) : (splitInto input (some dir) options : Action _) tree = (.inTheWay names, tree) := by
  simp [run_splitInto_eq, hn, ho, hne]

lemma splitFile_of_tried {names : List Text} {outcome : Outcome SplitResult} {final : FileTree}
    (h : (splitInto input (some dir) options : Action _) tree = (.tried names outcome, final)) :
    (splitFile input (some dir) options : Action _) tree = (outcome, final) := by
  rw [run_splitInto_eq] at h
  split at h
  · cases h
  · split at h
    · cases h
    · cases h
      rfl

def Command.json : Command → Bool
  | create _ _ _ _ json => json
  | list _ json => json

def AsksJson (arguments : List OsText) (json : Bool) : Prop :=
  ∃ invocation, parse arguments = .ok (.run invocation) ∧ invocation.command.json = json

lemma AsksJson.unique {json json' : Bool} (h : AsksJson arguments json) (h' : AsksJson arguments json') :
    json' = json := by
  obtain ⟨invocation, hp, rfl⟩ := h
  obtain ⟨invocation', hp', rfl⟩ := h'
  cases hp.symm.trans hp'
  rfl

lemma Attempts.run (h : Attempts tree arguments input dir options) (around : Surroundings) :
    ∃ names filter json, AsksJson arguments json ∧ (runProgram around arguments : Action Report) tree =
      let ending := (splitFile input (some dir) options : Action _) tree
      ((SplitAttempt.tried names ending.1).report around filter json, ending.2) := by
  obtain ⟨⟨hp, hc, hd, rfl⟩, names, hn, ho⟩ := h
  rename_i debug output overwrite mode json config
  refine ⟨names, Invocation.logFilter ⟨debug, .create input output overwrite mode json⟩ around, json,
    ⟨_, hp, rfl⟩, ?_⟩
  simp only [runProgram, hp, Request.answer, FileTree.run_bind, run_configured hc, Command.run, hd,
    run_splitInto hn ho]
  rfl

section Idle

variable (around : Surroundings) (filter : LogFilter) (json : Bool)

lemma isOutputError_of_load {e : SplitError}
    (h : ((Declarations.load input : Action _) tree).1.result = .error e) : e.isOutputError = false := by
  cases hr : tree.readText input with
  | error cause =>
    rw [load_error hr] at h
    cases h
    rfl
  | ok source =>
    rw [load_text hr] at h
    have ho : Declarations.ofSource source input = ⟨(Declarations.ofSource source input).events, .error e⟩ := by
      rw [← h]
    exact isOutputError_of_ofSource ho

lemma run_list_idle (tree : FileTree) (input : Path) (config : Config) :
    let run := ((Command.list input json).run config : Action RunResult) tree
    run.2 = tree ∧ leftInPlace ∉ (run.1.report around filter).errors := by
  intro run
  constructor
  · change ((Declarations.load input : Action _) tree).2 = tree
    cases hr : tree.readText input with
    | error e => rw [load_error hr]
    | ok source => rw [load_text hr]
  · change leftInPlace ∉ (RunResult.report around filter
      (.listed json ((Declarations.load input : Action _) tree).1)).errors
    simp only [RunResult.report]
    split
    · rename_i e he
      rw [List.mem_append, not_or, mem_splitFailure_iff, isOutputError_of_load he]
      exact ⟨notMem_logLines _ _ _, Bool.false_ne_true⟩
    · exact notMem_logLines _ _ _

lemma notMem_failure (message : Text) (cause : Option FileError) :
    leftInPlace ∉ [failureLine message cause] := by
  intro h
  exact failureLine_ne _ _ (List.mem_singleton.mp h).symm

lemma run_splitInto_idle {dir : Option Path}
    (h : ∀ place names, dir = some place → tree.inTheWay place (options.extensionFor input) = .ok names →
      ¬ (options.overwrite = true ∨ names = [])) :
    let run := (splitInto input dir options : Action SplitAttempt) tree
    run.2 = tree ∧ leftInPlace ∉ (run.1.report around filter json).errors := by
  intro run
  cases dir with
  | none =>
    refine ⟨rfl, ?_⟩
    intro h
    exact ne_leftInPlace (by simp) (List.mem_singleton.mp h).symm
  | some place =>
    cases hn : tree.inTheWay place (options.extensionFor input) with
    | error cause =>
      have hr : run = (.unlisted place cause, tree) := by simp [run, run_splitInto_eq, hn]
      rw [hr]
      exact ⟨rfl, notMem_failure _ _⟩
    | ok names =>
      have hno := h place names rfl hn
      rw [not_or] at hno
      have hr : run = (.inTheWay names, tree) := run_splitInto_inTheWay hn (by simpa using hno.1) hno.2
      rw [hr]
      exact ⟨rfl, List.not_mem_nil⟩

lemma run_idle (h : ∀ input dir options, ¬ Attempts tree arguments input dir options) :
    let run := (runProgram around arguments : Action Report) tree
    run.2 = tree ∧ leftInPlace ∉ run.1.errors := by
  intro run
  cases hp : parse arguments with
  | error e =>
    have hr : run = (e.report, tree) := by simp only [run, runProgram, hp, FileTree.run_pure]
    rw [hr]
    exact ⟨rfl, e.notMem_lines⟩
  | ok request =>
    have hr : run = (request.answer around : Action Report) tree := by simp only [run, runProgram, hp]
    rw [hr]
    cases request with
    | help scope => exact ⟨rfl, List.not_mem_nil⟩
    | version => exact ⟨rfl, List.not_mem_nil⟩
    | run invocation =>
      obtain ⟨debug, command⟩ := invocation
      simp only [Request.answer, FileTree.run_bind, FileTree.run_pure]
      rcases run_cases tree ⟨debug, command⟩ with ⟨cause, hbad⟩ | ⟨config, hc, hrun⟩
      · rw [hbad]
        exact ⟨rfl, notMem_failure _ _⟩
      · rw [hrun]
        cases command with
        | list input json => exact run_list_idle around _ json tree input config
        | create input output overwrite mode json =>
          refine run_splitInto_idle around _ json ?_
          intro place names hd hn ho
          exact h _ _ _ ⟨⟨hp, hc, hd, rfl⟩, names, hn, ho⟩

end Idle

def quiet : Surroundings := ⟨"/w", none, "now"⟩

def fresh : FileTree := ⟨[(["a.ts"], .file (.text "type A = 1;"))]⟩

end DeclSplit.CommandLine
