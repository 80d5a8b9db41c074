import DeclSplit.Proofs.CommandLine.Switches
import DeclSplit.Proofs.CommandLine.Telling
import Mathlib.Data.List.Forall2

/-! Two runs that differ in how their result is presented.  What is done to files does not depend on that, nor does
what is told on the other channel. -/

namespace DeclSplit.CommandLine

open FileTree (Action)

variable {tree : FileTree} {around around' : Surroundings} {filter filter' : LogFilter} {json json' : Bool}
  {config : Config} {command command' : Command} {request request' : Request}

/-- The same lines, but for the times at which messages were logged. -/
def SameButTimes (time time' : Text) : List Text → List Text → Prop :=
  List.Forall₂ fun line line' =>
    line = line' ∨ ∃ message : LogMessage, line = message.line time ∧ line' = message.line time'

section SameButTimes

variable {time time' : Text} {lines lines' more more' : List Text}

lemma SameButTimes.refl (lines : List Text) : SameButTimes time time' lines lines :=
  List.forall₂_same.mpr fun _ _ => .inl rfl

lemma SameButTimes.append (h : SameButTimes time time' lines lines') (hm : SameButTimes time time' more more') :
    SameButTimes time time' (lines ++ more) (lines' ++ more') := List.rel_append h hm

lemma SameButTimes.eq (h : SameButTimes time time lines lines') : lines' = lines := by
  induction h with
  | nil => rfl
  | cons hline _ ih =>
    rcases hline with rfl | ⟨message, rfl, rfl⟩ <;> rw [ih]

lemma sameButTimes_lines (filter : LogFilter) (time time' : Text) (events : List SplitEvent) :
    SameButTimes time time' (filter.lines time events) (filter.lines time' events) := by
  rw [SameButTimes, LogFilter.lines, LogFilter.lines, List.forall₂_map_left_iff, List.forall₂_map_right_iff,
    List.forall₂_same]
  intro message _
  exact .inr ⟨message, rfl, rfl⟩

end SameButTimes

lemma announcements_eq (hd : around.currentDirectory = around'.currentDirectory) (events : List SplitEvent) :
    announcements around events = announcements around' events := by
  rw [announcements, announcements, hd]

namespace SplitAttempt

def Tellable : SplitAttempt → Prop
  | tried _ outcome => ∀ result, outcome.result = .ok result → result.toJson? ≠ none
  | _ => True

lemma complaint_eq {names : List Text} {outcome : Outcome SplitResult}
    (h : json = json' ∨ (tried names outcome).Tellable) :
    complaint json' outcome.result = complaint json outcome.result := by
  rcases h with rfl | h
  · rfl
  cases hr : outcome.result with
  | error e => rfl
  | ok result => simp [complaint, told?_eq_none_iff, h result hr]

lemma report_exitCode {attempt : SplitAttempt} (h : json = json' ∨ attempt.Tellable) :
    (attempt.report around' filter' json').exitCode = (attempt.report around filter json).exitCode := by
  cases attempt with
  | tried names outcome => rw [exitCode_tried, exitCode_tried, complaint_eq h]
  | _ => rfl

lemma report_errors {attempt : SplitAttempt} (h : json = json' ∨ attempt.Tellable) :
    SameButTimes around.time around'.time (attempt.report around filter json).errors
      (attempt.report around' filter json').errors := by
  cases attempt with
  | tried names outcome =>
    rw [errors_tried, errors_tried, complaint_eq h]
    exact (sameButTimes_lines _ _ _ _).append (.refl _)
  | _ => exact .refl _

lemma report_output (hd : around.currentDirectory = around'.currentDirectory) (attempt : SplitAttempt) :
    (attempt.report around' filter' json).output = (attempt.report around filter json).output := by
  cases attempt with
  | tried names outcome =>
    rw [report, report, announcements_eq hd]
    cases outcome.result with
    | error e => rfl
    | ok result =>
      simp only
      cases told? json result <;> rfl
  | _ => rfl

end SplitAttempt

namespace RunResult

def Tellable : RunResult → Prop
  | created _ attempt => attempt.Tellable
  | _ => True

inductive Retold : RunResult → RunResult → Prop
  | badConfig {cause} : Retold (badConfig cause) (badConfig cause)
  | created {json json' attempt} (tellable : json = json' ∨ attempt.Tellable) :
      Retold (created json attempt) (created json' attempt)
  | listed {json json' outcome} : Retold (listed json outcome) (listed json' outcome)

variable {result result' : RunResult}

lemma Retold.refl (result : RunResult) : Retold result result := by
  cases result with
  | badConfig => exact .badConfig
  | created => exact .created (.inl rfl)
  | listed => exact .listed

lemma Retold.exitCode (h : Retold result result') :
    (result'.report around' filter').exitCode = (result.report around filter).exitCode := by
  cases h with
  | badConfig => rfl
  | created tellable => exact SplitAttempt.report_exitCode tellable
  | @listed _ _ outcome =>
    rw [report, report]
    cases outcome.result <;> rfl

lemma Retold.errors (h : Retold result result') : SameButTimes around.time around'.time
    (result.report around filter).errors (result'.report around' filter).errors := by
  cases h with
  | badConfig => exact .refl _
  | created tellable => exact SplitAttempt.report_errors tellable
  | @listed _ _ outcome =>
    rw [report, report]
    cases outcome.result with
    | error e => exact (sameButTimes_lines _ _ _ _).append (.refl _)
    | ok all => exact sameButTimes_lines _ _ _ _

lemma report_output (hd : around.currentDirectory = around'.currentDirectory) (result : RunResult) :
    (result.report around' filter').output = (result.report around filter).output := by
  cases result with
  | badConfig cause => rfl
  | created json attempt => exact attempt.report_output hd
  | listed json outcome =>
    rw [report, report]
    cases outcome.result <;> rfl

end RunResult

lemma run_eq (tree : FileTree) (invocation : Invocation) : (invocation.run : Action RunResult) tree =
    match ((Config.loadOrDefault : Action _) tree).1 with
    | .error cause => (.badConfig cause, tree)
    | .ok config => (invocation.command.run config : Action RunResult) tree := by
  have hkept : ((Config.loadOrDefault : Action _) tree).2 = tree := by rw [load_config]
  simp only [Invocation.run, FileTree.run_bind, hkept]
  cases ((Config.loadOrDefault : Action _) tree).1 <;> rfl

lemma without_cases {p : Parameter} (h : command.without p = command'.without p) :
    (∃ input json json', command = .list input json ∧ command' = .list input json' ∧
      (p ≠ .json → json = json')) ∨
    ∃ input output overwrite overwrite' mode json json', command = .create input output overwrite mode json ∧
      command' = .create input output overwrite' mode json' ∧ (p ≠ .overwrite → overwrite = overwrite') ∧
      (p ≠ .json → json = json') := by
  cases command with
  | list input json =>
    cases command' with
    | create => cases h
    | list input' json' =>
      obtain ⟨rfl, hjson⟩ := Command.list.inj h
      exact .inl ⟨_, _, _, rfl, rfl, fun hp => by simpa [hp] using hjson⟩
  | create input output overwrite mode json =>
    cases command' with
    | list => cases h
    | create input' output' overwrite' mode' json' =>
      obtain ⟨rfl, rfl, hoverwrite, rfl, hjson⟩ := Command.create.inj h
      exact .inr ⟨_, _, _, _, _, _, _, rfl, rfl, fun hp => by simpa [hp] using hoverwrite,
        fun hp => by simpa [hp] using hjson⟩

lemma run_json (h : command.without .json = command'.without .json) (config : Config) (tree : FileTree) :
    let run := (command.run config : Action RunResult) tree
    let run' := (command'.run config : Action RunResult) tree
    run'.2 = run.2 ∧ (run.1.Tellable → run.1.Retold run'.1) := by
  obtain ⟨_, _, _, rfl, rfl, -⟩ | ⟨_, _, _, _, _, _, _, rfl, rfl, hoverwrite, -⟩ := without_cases h
  · exact ⟨rfl, fun _ => .listed⟩
  · obtain rfl := hoverwrite (by decide)
    exact ⟨rfl, fun tellable => .created (.inr tellable)⟩

lemma splitInto_tellable {input dir : Path} {options : SplitOptions}
    (h : ∀ result, (∃ names, tree.inTheWay dir (options.extensionFor input) = .ok names ∧
        (options.overwrite = true ∨ names = [])) →
      ((splitFile input (some dir) options : Action _) tree).1.result = .ok result → dir.os.text? ≠ none) :
    ((splitInto input (some dir) options : Action _) tree).1.Tellable := by
  rw [run_splitInto_eq]
  split
  · trivial
  · rename_i names hn
    split
    · trivial
    · rename_i hfree
      intro result hr hnone
      refine h result ⟨names, hn, ?_⟩ hr ((toJson?_eq_none_of_split hr).mp hnone)
      rw [Bool.not_eq_true, Bool.and_eq_false_iff] at hfree
      simpa [or_comm] using hfree

lemma run_tellable {arguments : List OsText} {debug : Bool}
    (hp : parse arguments = .ok (.run ⟨debug, command⟩)) (h : ¬ Untellable tree arguments) :
    ((Invocation.run ⟨debug, command⟩ : Action RunResult) tree).1.Tellable := by
  rcases run_cases tree ⟨debug, command⟩ with ⟨cause, hbad⟩ | ⟨config, hc, hrun⟩
  · rw [hbad]
    trivial
  rw [hrun]
  cases command with
  | list => trivial
  | create input output overwrite mode json =>
    rw [run_create rfl rfl]
    cases hd : output.or (config.output.map Path.mk) with
    | none => trivial
    | some dir =>
      refine splitInto_tellable fun result hfree hr hnone => ?_
      exact h ⟨input, dir, _, result, ⟨.create hp hc hd rfl, hfree⟩, hr, hnone⟩

lemma splitInto_overwrite {input dir : Path} {options : SplitOptions} (overwrite : Bool)
    (hn : tree.inTheWay dir (options.extensionFor input) = .ok []) :
    (splitInto input (some dir) { options with overwrite } : Action _) tree =
      (splitInto input (some dir) options : Action _) tree := by
  -- The extension, and so what is in the way, does not depend on leave to replace files.
  have hn' : tree.inTheWay dir (SplitOptions.extensionFor { options with overwrite } input) = .ok [] := hn
  rw [run_splitInto hn (.inr rfl), run_splitInto hn' (.inr rfl)]
  rfl

def Unhindered (tree : FileTree) (config : Config) : Command → Prop
  | .create input output _ _ _ => ∀ dir, output.or (config.output.map Path.mk) = some dir →
    tree.inTheWay dir (SplitOptions.extensionFor { extension := config.extension } input) = .ok []
  | .list .. => True

lemma run_overwrite (h : command.without .overwrite = command'.without .overwrite)
    (free : Unhindered tree config command) :
    (command'.run config : Action RunResult) tree = (command.run config : Action RunResult) tree := by
  obtain ⟨_, _, _, rfl, rfl, hjson⟩ | ⟨input, output, overwrite, overwrite', mode, _, _, rfl, rfl, -, hjson⟩ :=
    without_cases h
  · obtain rfl := hjson (by decide)
    rfl
  · obtain rfl := hjson (by decide)
    simp only [Command.run, FileTree.run_bind]
    cases hd : output.or (config.output.map Path.mk) with
    | none => rfl
    | some dir =>
      have hn : tree.inTheWay dir (SplitOptions.extensionFor
          ⟨overwrite || config.overwrite.getD false, (mode.or config.mode).getD default, config.extension⟩
          input) = .ok [] := free dir hd
      have hsame := splitInto_overwrite (overwrite' || config.overwrite.getD false) hn
      simp only at hsame
      rw [hsame]

lemma request_cases {p : Parameter} (h : request.without p = request'.without p) :
    (request' = request ∧ ∀ invocation, request ≠ .run invocation) ∨
    ∃ debug debug' command command', request = .run ⟨debug, command⟩ ∧ request' = .run ⟨debug', command'⟩ ∧
      (p ≠ .debug → debug = debug') ∧ command.without p = command'.without p := by
  cases request with
  | run invocation =>
    cases request' with
    | run invocation' =>
      obtain ⟨hdebug, hcommand⟩ := Invocation.mk.inj (Request.run.inj h)
      exact .inr ⟨_, _, _, _, rfl, rfl, fun hp => by simpa [hp] using hdebug, hcommand⟩
    | help | version => cases h
  | help scope =>
    cases request' with
    | help scope' =>
      cases h
      exact .inl ⟨rfl, by simp⟩
    | run | version => cases h
  | version =>
    cases request' with
    | version => exact .inl ⟨rfl, by simp⟩
    | run | help => cases h

lemma answer_idle (h : ∀ invocation, request ≠ .run invocation) (around around' : Surroundings) (tree : FileTree) :
    (request.answer around' : Action Report) tree = (request.answer around : Action Report) tree := by
  cases request with
  | run invocation => exact absurd rfl (h invocation)
  | help | version => rfl

lemma answer_run (invocation : Invocation) (around : Surroundings) (tree : FileTree) :
    ((Request.run invocation).answer around : Action Report) tree =
      (((invocation.run : Action RunResult) tree).1.report around (invocation.logFilter around),
        ((invocation.run : Action RunResult) tree).2) := rfl

lemma logFilter_eq (hs : around.logSetting = around'.logSetting) (debug : Bool) (command command' : Command) :
    Invocation.logFilter ⟨debug, command⟩ around = Invocation.logFilter ⟨debug, command'⟩ around' := by
  rw [Invocation.logFilter, Invocation.logFilter, hs]

section Answers

variable (tree)

lemma answer_json (h : request.without .json = request'.without .json)
    (hs : around.logSetting = around'.logSetting) :
    let run := (request.answer around : Action Report) tree
    let run' := (request'.answer around' : Action Report) tree
    run'.2 = run.2 ∧ ((∀ invocation, request = .run invocation →
        ((invocation.run : Action RunResult) tree).1.Tellable) →
      run'.1.exitCode = run.1.exitCode ∧ SameButTimes around.time around'.time run.1.errors run'.1.errors) := by
  obtain ⟨rfl, hidle⟩ | ⟨debug, _, command, command', rfl, rfl, hdebug, hc⟩ := request_cases h
  · rw [answer_idle hidle around around' tree]
    exact ⟨rfl, fun _ => ⟨rfl, .refl _⟩⟩
  · obtain rfl := hdebug (by decide)
    have both : let run := (Invocation.run ⟨debug, command⟩ : Action RunResult) tree
        let run' := (Invocation.run ⟨debug, command'⟩ : Action RunResult) tree
        run'.2 = run.2 ∧ (run.1.Tellable → run.1.Retold run'.1) := by
      -- Both runs read the same configuration before they look at their commands.
      rw [run_eq, run_eq]
      cases ((Config.loadOrDefault : Action _) tree).1 with
      | error cause => exact ⟨rfl, fun _ => .badConfig⟩
      | ok config => exact run_json hc config tree
    obtain ⟨hfinal, hretold⟩ := both
    rw [answer_run, answer_run, logFilter_eq hs debug command command']
    refine ⟨hfinal, fun tellable => ?_⟩
    have htold := hretold (tellable _ rfl)
    exact ⟨htold.exitCode, htold.errors⟩

lemma answer_debug (h : request.without .debug = request'.without .debug)
    (hd : around.currentDirectory = around'.currentDirectory) :
    let run := (request.answer around : Action Report) tree
    let run' := (request'.answer around' : Action Report) tree
    run'.2 = run.2 ∧ run'.1.exitCode = run.1.exitCode ∧ run'.1.output = run.1.output := by
  obtain ⟨rfl, hidle⟩ | ⟨debug, debug', command, command', rfl, rfl, -, hc⟩ := request_cases h
  · rw [answer_idle hidle around around' tree]
    exact ⟨rfl, rfl, rfl⟩
  · have hcommand : command' = command := by
      obtain ⟨_, _, _, rfl, rfl, hjson⟩ | ⟨_, _, _, _, _, _, _, rfl, rfl, hoverwrite, hjson⟩ := without_cases hc
      · rw [hjson (by decide)]
      · rw [hjson (by decide), hoverwrite (by decide)]
    subst hcommand
    rw [answer_run, answer_run]
    exact ⟨rfl, (RunResult.Retold.refl _).exitCode, RunResult.report_output hd _⟩

lemma answer_overwrite (h : request.without .overwrite = request'.without .overwrite)
    (hd : around.currentDirectory = around'.currentDirectory) (hs : around.logSetting = around'.logSetting)
    (free : ∀ debug command config, request = .run ⟨debug, command⟩ → Configured tree config →
      Unhindered tree config command) :
    let run := (request.answer around : Action Report) tree
    let run' := (request'.answer around' : Action Report) tree
    run'.2 = run.2 ∧ run'.1.exitCode = run.1.exitCode ∧ run'.1.output = run.1.output ∧
      SameButTimes around.time around'.time run.1.errors run'.1.errors := by
  obtain ⟨rfl, hidle⟩ | ⟨debug, _, command, command', rfl, rfl, hdebug, hc⟩ := request_cases h
  · rw [answer_idle hidle around around' tree]
    exact ⟨rfl, rfl, rfl, .refl _⟩
  · obtain rfl := hdebug (by decide)
    have hsame : (Invocation.run ⟨debug, command'⟩ : Action RunResult) tree =
        (Invocation.run ⟨debug, command⟩ : Action RunResult) tree := by
      rw [run_eq, run_eq]
      cases hl : ((Config.loadOrDefault : Action _) tree).1 with
      | error cause => rfl
      | ok config => exact run_overwrite hc (free _ _ _ rfl (configured_iff.mp hl))
    have htold := RunResult.Retold.refl ((Invocation.run ⟨debug, command⟩ : Action RunResult) tree).1
    rw [answer_run, answer_run, hsame, logFilter_eq hs debug command command']
    exact ⟨rfl, htold.exitCode, RunResult.report_output hd _, htold.errors⟩

end Answers

def Valid (arguments : List OsText) : Prop := ∃ request, parse arguments = .ok request

lemma runProgram_eq {arguments : List OsText} (h : parse arguments = .ok request) (around : Surroundings)
    (tree : FileTree) :
    (runProgram around arguments : Action Report) tree = (request.answer around : Action Report) tree := by
  rw [runProgram, h]

theorem presentation_does_not_interfere (tree : FileTree) {front back : List OsText} (valid : Valid (front ++ back))
    {around around' : Surroundings} (hd : around.currentDirectory = around'.currentDirectory) :
    let run := (runProgram around (front ++ back) : Action Report) tree
    (Valid (front ++ Text.os "--json" :: back) → around.logSetting = around'.logSetting →
      let run' := (runProgram around' (front ++ Text.os "--json" :: back) : Action Report) tree
      run'.2 = run.2 ∧ (¬ Untellable tree (front ++ back) → run'.1.exitCode = run.1.exitCode ∧
        SameButTimes around.time around'.time run.1.errors run'.1.errors)) ∧
    (∀ debug : List OsText, debug ∈ [[], [Text.os "--debug"], [Text.os "-d"]] → Valid (front ++ (debug ++ back)) →
      let run' := (runProgram around' (front ++ (debug ++ back)) : Action Report) tree
      run'.2 = run.2 ∧ run'.1.exitCode = run.1.exitCode ∧ run'.1.outputText = run.1.outputText) ∧
    (Valid (front ++ Text.os "--overwrite" :: back) → around.logSetting = around'.logSetting →
      (∀ input dir options, Asked tree (front ++ back) input dir options →
        tree.inTheWay dir (options.extensionFor input) = .ok []) →
      let run' := (runProgram around' (front ++ Text.os "--overwrite" :: back) : Action Report) tree
      run'.2 = run.2 ∧ run'.1.exitCode = run.1.exitCode ∧ run'.1.outputText = run.1.outputText ∧
        SameButTimes around.time around'.time run.1.errors run'.1.errors ∧
        (around.time = around'.time → run'.1.errors = run.1.errors)) := by
  obtain ⟨request, hp⟩ := valid
  rw [runProgram_eq hp]
  refine ⟨?_, ?_, ?_⟩
  · rintro ⟨request', hp'⟩ hs
    rw [runProgram_eq hp']
    obtain ⟨hfinal, htold⟩ := answer_json tree (parse_insert (.head _) hp hp') hs
    refine ⟨hfinal, fun htellable => htold ?_⟩
    rintro ⟨debug, command⟩ rfl
    exact run_tellable hp htellable
  · rintro debug hdebug ⟨request', hp'⟩
    have hsame : request.without .debug = request'.without .debug := by
      simp only [List.mem_cons, List.not_mem_nil, or_false] at hdebug
      rcases hdebug with rfl | rfl | rfl
      · rw [Except.ok.inj (hp.symm.trans hp')]
      · exact parse_insert (.head _) hp hp'
      · exact parse_insert (.tail _ (.head _)) hp hp'
    obtain ⟨hfinal, hcode, hout⟩ := answer_debug tree hsame hd
    rw [runProgram_eq hp']
    exact ⟨hfinal, hcode, congrArg Report.unlines hout⟩
  · rintro ⟨request', hp'⟩ hs hfree
    have free : ∀ debug command config, request = .run ⟨debug, command⟩ → Configured tree config →
        Unhindered tree config command := by
      rintro debug command config rfl hc
      cases command with
      | list => trivial
      | create input output overwrite mode json =>
        intro dir hdir
        have hnone := hfree _ _ _ (.create hp hc hdir rfl)
        exact hnone
    obtain ⟨hfinal, hcode, hout, herrors⟩ :=
      answer_overwrite tree (parse_insert (.head _) hp hp') hd hs free
    rw [runProgram_eq hp']
    refine ⟨hfinal, hcode, congrArg Report.unlines hout, herrors, ?_⟩
    intro htime
    rw [htime] at herrors
    exact herrors.eq

def faulty : FileTree := ⟨[(["a.ts"], .file (.text "type A = 1;\nconst a;"))]⟩

theorem faulty_split_undisturbed :
    let front : List OsText := ["create", "a.ts"]
    let back : List OsText := ["--migrate", "out"]
    let later : Surroundings := ⟨"/w", none, "later"⟩
    ((runProgram quiet (front ++ back) : Action Report) faulty).1.errors.length = 1 ∧
    ((runProgram later (front ++ Text.os "--json" :: back) : Action Report) faulty).2 =
      ((runProgram quiet (front ++ back) : Action Report) faulty).2 ∧
    SameButTimes quiet.time later.time ((runProgram quiet (front ++ back) : Action Report) faulty).1.errors
      ((runProgram later (front ++ Text.os "--json" :: back) : Action Report) faulty).1.errors ∧
    ((runProgram later (front ++ ([Text.os "-d"] ++ back)) : Action Report) faulty).1.outputText =
      ((runProgram quiet (front ++ back) : Action Report) faulty).1.outputText ∧
    ((runProgram later (front ++ Text.os "--overwrite" :: back) : Action Report) faulty).1.outputText =
      ((runProgram quiet (front ++ back) : Action Report) faulty).1.outputText := by
  intro front back later
  have hp : parse (front ++ back) = .ok (.run ⟨false, .create "a.ts" (some "out") false none false⟩) := by
    decide +kernel
  have hpjson : parse (front ++ Text.os "--json" :: back) =
      .ok (.run ⟨false, .create "a.ts" (some "out") false none true⟩) := by decide +kernel
  have hpdebug : parse (front ++ ([Text.os "-d"] ++ back)) =
      .ok (.run ⟨true, .create "a.ts" (some "out") false none false⟩) := by decide +kernel
  have hpoverwrite : parse (front ++ Text.os "--overwrite" :: back) =
      .ok (.run ⟨false, .create "a.ts" (some "out") true none false⟩) := by decide +kernel
  have hone : ((runProgram quiet (front ++ back) : Action Report) faulty).1.errors.length = 1 := by
    decide +kernel
  have free : ∀ input dir options, Asked faulty (front ++ back) input dir options →
      faulty.inTheWay dir (options.extensionFor input) = .ok [] := by
    rintro _ _ _ ⟨hp', hc', hdir, rfl⟩
    cases hp.symm.trans hp'
    cases hc'.unique (.absent (by decide +kernel))
    cases hdir
    decide +kernel
  have hd : quiet.currentDirectory = later.currentDirectory := rfl
  obtain ⟨hjson, hdebug, hoverwrite⟩ := presentation_does_not_interfere faulty ⟨_, hp⟩ hd
  have tellable : ¬ Untellable faulty (front ++ back) := by
    rintro ⟨_, _, _, _, ⟨⟨hp', hc', hdir, -⟩, -⟩, -, hnone⟩
    cases hp.symm.trans hp'
    cases hc'.unique (.absent (by decide +kernel))
    cases hdir
    cases hnone
  obtain ⟨hfinal, htold⟩ := hjson ⟨_, hpjson⟩ rfl
  obtain ⟨-, herrors⟩ := htold tellable
  obtain ⟨-, -, hlogged⟩ := hdebug [Text.os "-d"] (by decide) ⟨_, hpdebug⟩
  obtain ⟨-, -, houtput, -⟩ := hoverwrite ⟨_, hpoverwrite⟩ rfl free
  exact ⟨hone, hfinal, herrors, hlogged, houtput⟩

theorem switches_interfere :
    (let once : List OsText := ["create", "a.ts", "--migrate", "out", "--overwrite"]
    let twice : List OsText := ["create", "a.ts", "--migrate", "out", "--overwrite", "--overwrite"]
    (∀ input dir options, Asked faulty once input dir options →
      faulty.inTheWay dir (options.extensionFor input) = .ok []) ∧
    ((runProgram quiet once : Action Report) faulty).1.exitCode = 0 ∧
    ((runProgram quiet twice : Action Report) faulty).1.exitCode = 2 ∧
    ((runProgram quiet once : Action Report) faulty).2 ≠ ((runProgram quiet twice : Action Report) faulty).2) ∧
    let plain : List OsText := ["create", "a.ts", "--migrate", unnameable]
    Valid plain ∧ Valid (plain ++ [Text.os "--json"]) ∧
    ((runProgram quiet plain : Action Report) fresh).1.exitCode = 0 ∧
    ((runProgram quiet (plain ++ [Text.os "--json"]) : Action Report) fresh).1.exitCode = 1 := by
  constructor
  · intro once twice
    have hp : parse once = .ok (.run ⟨false, .create "a.ts" (some "out") true none false⟩) := by decide +kernel
    refine ⟨?_, by decide +kernel, by decide +kernel, by decide +kernel⟩
    rintro _ _ _ ⟨hp', hc', hdir, rfl⟩
    cases hp.symm.trans hp'
    cases hc'.unique (.absent (by decide +kernel))
    cases hdir
    decide +kernel
  · intro plain
    have hplain : parse plain =
        .ok (.run ⟨false, .create "a.ts" (some ⟨unnameable⟩) false none false⟩) := by decide +kernel
    have htold : parse (plain ++ [Text.os "--json"]) =
        .ok (.run ⟨false, .create "a.ts" (some ⟨unnameable⟩) false none true⟩) := by decide +kernel
    exact ⟨⟨_, hplain⟩, ⟨_, htold⟩, by decide +kernel, by decide +kernel⟩

end DeclSplit.CommandLine
