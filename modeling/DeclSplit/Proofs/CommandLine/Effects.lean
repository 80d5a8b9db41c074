import DeclSplit.Proofs.CommandLine.Telling

/-! What a command line does to files, and what the report tells about it. -/

namespace DeclSplit

open FileTree (Action)

section Split

variable {e : SplitError}

lemma isOutputError_iff : e.isOutputError = true ↔
    ∃ path cause, e = .createDirectory path cause ∨ e = .writeFile path cause := by
  cases e <;> simp [SplitError.isOutputError]

lemma splitFile_idle_or_found (tree : FileTree) (input dir : Path) (options : SplitOptions) :
    let ending := (splitFile input (some dir) options : Action _) tree
    (ending.2 = tree ∧ ∃ e, ending.1.result = .error e ∧ e.isOutputError = false) ∨
      ((∃ source parsed, tree.readText input = .ok source ∧ ParsedSource.read source input = .ok parsed ∧
        parsed.declarations.isEmpty = false) ∧
        ∀ e, ending.1.result = .error e → e.isOutputError = true) := by
  intro ending
  rcases splitFile_ends tree input dir options with ⟨cause, he⟩ | ⟨source, ht, he⟩
  · have he' : ending = _ := he
    rw [he']
    exact .inl ⟨rfl, _, rfl, rfl⟩
  · rcases he.idle_or_found with hidle | ⟨⟨parsed, hr, hs⟩, houtput⟩
    · exact .inl hidle
    · exact .inr ⟨⟨source, parsed, ht, hr, hs⟩, houtput⟩

end Split

namespace CommandLine

variable {tree : FileTree} {arguments : List OsText} {input dir : Path} {options : SplitOptions}

lemma untellable_ne : leftInPlace ≠ untellable := fun h => failureLine_ne _ _ h.symm

lemma report_tried (around : Surroundings) (filter : LogFilter) (json : Bool) (names : List Text)
    (outcome : Outcome SplitResult) :
    let report := (SplitAttempt.tried names outcome).report around filter json
    (report.exitCode ≠ 0 ↔ (∃ e, outcome.result = .error e) ∨
      ∃ result, outcome.result = .ok result ∧ told? json result = none) ∧
    (leftInPlace ∈ report.errors ↔ ∃ e, outcome.result = .error e ∧ e.isOutputError = true) := by
  intro report
  rw [errors_tried, exitCode_tried, List.mem_append, or_iff_right (notMem_logLines _ _ _)]
  cases outcome.result with
  | error e =>
    have hsome : splitFailure e ≠ [] := List.cons_ne_nil _ _
    rw [complaint, mem_splitFailure_iff, if_neg hsome]
    simp
  | ok result => by_cases ht : told? json result = none <;> simp [complaint, ht, untellable_ne]

/-- The split found declarations, and could not make the directory or write a file. -/
def OutputFailed (tree : FileTree) (input dir : Path) (options : SplitOptions) : Prop :=
  ∃ path cause, let result := ((splitFile input (some dir) options : Action _) tree).1.result
    result = .error (.createDirectory path cause) ∨ result = .error (.writeFile path cause)

lemma outputFailed_iff : OutputFailed tree input dir options ↔
    ∃ e, ((splitFile input (some dir) options : Action _) tree).1.result = .error e ∧
      e.isOutputError = true := by
  constructor
  · rintro ⟨path, cause, h | h⟩
    · exact ⟨_, h, rfl⟩
    · exact ⟨_, h, rfl⟩
  · rintro ⟨e, he, ho⟩
    obtain ⟨path, cause, hoe⟩ := isOutputError_iff.mp ho
    exact ⟨path, cause, by simpa [he] using hoe⟩

lemma Attempts.effects (h : Attempts tree arguments input dir options) (around : Surroundings) :
    let run := (runProgram around arguments : Action Report) tree
    (run.2 ≠ tree → ∃ source parsed, tree.readText input = .ok source ∧
      ParsedSource.read source input = .ok parsed ∧ parsed.declarations.isEmpty = false) ∧
    (run.1.exitCode ≠ 0 → leftInPlace ∉ run.1.errors → run.2 = tree ∨ Untold tree arguments) ∧
    (leftInPlace ∈ run.1.errors ↔ OutputFailed tree input dir options) := by
  intro run
  obtain ⟨names, filter, json, asked, hr⟩ := h.run around
  obtain ⟨htold, hleft⟩ := report_tried around filter json names
    ((splitFile input (some dir) options : Action _) tree).1
  have hreport : run.1 = _ := congrArg Prod.fst hr
  have htree : run.2 = _ := congrArg Prod.snd hr
  rw [hreport, htree, outputFailed_iff]
  refine ⟨?_, ?_, hleft⟩
  · intro hchanged
    rcases splitFile_idle_or_found tree input dir options with ⟨hkeep, _⟩ | ⟨hfound, _⟩
    · exact absurd hkeep hchanged
    · exact hfound
  · intro hcode hline
    rcases htold.mp hcode with ⟨e, he⟩ | huntold
    · left
      rcases splitFile_idle_or_found tree input dir options with ⟨hkeep, _⟩ | ⟨_, houtput⟩
      · exact hkeep
      · exact absurd (hleft.mpr ⟨e, he, houtput e he⟩) hline
    · exact .inr ((h.untold_iff asked).mpr huntold)

theorem run_changes_only_behind_checks (around : Surroundings) (tree : FileTree) (arguments : List OsText) :
    let run := (runProgram around arguments : Action Report) tree
    (run.2 ≠ tree → ∃ input dir options source parsed, Attempts tree arguments input dir options ∧
      tree.readText input = .ok source ∧ ParsedSource.read source input = .ok parsed ∧
      parsed.declarations.isEmpty = false) ∧
    (run.1.exitCode ≠ 0 → leftInPlace ∉ run.1.errors → run.2 = tree ∨ Untold tree arguments) ∧
    (leftInPlace ∈ run.1.errors ↔
      ∃ input dir options, Attempts tree arguments input dir options ∧ OutputFailed tree input dir options) ∧
    (leftInPlace ∈ run.1.errors → HasLine run.1.errorText leftInPlace) ∧
    (HasLine run.1.errorText leftInPlace →
      leftInPlace ∈ run.1.errors ∨ ∃ printed ∈ run.1.errors, '\n' ∈ printed) := by
  intro run
  have hseen : HasLine run.1.errorText leftInPlace →
      leftInPlace ∈ run.1.errors ∨ ∃ printed ∈ run.1.errors, '\n' ∈ printed :=
    fun h => Report.mem_of_hasLine h (by decide +kernel) (by decide +kernel)
  by_cases ha : ∃ input dir options, Attempts tree arguments input dir options
  · obtain ⟨input, dir, options, ha⟩ := ha
    obtain ⟨hchanged, hfailed, hline⟩ := ha.effects around
    refine ⟨?_, hfailed, ⟨?_, ?_⟩, Report.hasLine_unlines, hseen⟩
    · intro h
      obtain ⟨source, parsed, hfound⟩ := hchanged h
      exact ⟨input, dir, options, source, parsed, ha, hfound⟩
    · intro h
      exact ⟨input, dir, options, ha, hline.mp h⟩
    · rintro ⟨input', dir', options', ha', h⟩
      exact (ha'.effects around).2.2.mpr h
  · obtain ⟨hkeep, hline⟩ := run_idle around fun input dir options h => ha ⟨input, dir, options, h⟩
    refine ⟨fun h => absurd hkeep h, fun _ _ => .inl hkeep, ⟨fun h => absurd h hline, ?_⟩,
      Report.hasLine_unlines, hseen⟩
    rintro ⟨input, dir, options, h, _⟩
    exact absurd ⟨input, dir, options, h⟩ ha

def missingFile : Text := "x\nFiles written before the failure were left in place.\n.ts"

theorem line_left_told_otherwise :
    (let arguments : List OsText := ["create", missingFile, "--migrate", "out"]
    let run := (runProgram quiet arguments : Action Report) .empty
    run.1.exitCode = 1 ∧ run.2 = .empty ∧ HasLine run.1.errorText leftInPlace ∧
      ∀ input dir options, Attempts .empty arguments input dir options → ¬ OutputFailed .empty input dir options) ∧
    let arguments : List OsText := ["create", "a.ts", "--migrate", unnameable, "--json"]
    let run := (runProgram quiet arguments : Action Report) fresh
    run.1.exitCode = 1 ∧ ¬ HasLine run.1.errorText leftInPlace ∧ run.2 ≠ fresh := by
  constructor
  · intro arguments run
    have hreport : run = (⟨1, [], ["Error: failed to read " ++ missingFile ++
        ": No such file or directory (os error 2): No such file or directory (os error 2)"]⟩, .empty) :=
      Prod.ext (by decide +kernel) (by decide +kernel)
    have hnone : leftInPlace ∉ run.1.errors := by
      rw [hreport]
      decide +kernel
    refine ⟨by rw [hreport], by rw [hreport], ?_, ?_⟩
    · rw [hreport]
      exact ⟨"Error: failed to read x\n", ".ts: No such file or directory (os error 2): " ++
        "No such file or directory (os error 2)\n", by decide +kernel, .inr (by decide +kernel)⟩
    · intro input dir options ha hfailed
      exact hnone ((ha.effects quiet).2.2.mpr hfailed)
  · intro arguments run
    have hreport : run.1 = ⟨1, [], [untellable]⟩ := by decide +kernel
    refine ⟨by rw [hreport], ?_, by decide +kernel⟩
    rw [hreport]
    intro hline
    rcases Report.mem_of_hasLine hline (by decide +kernel) (by decide +kernel) with h | ⟨printed, hp, hn⟩
    · exact untellable_ne (List.mem_singleton.mp h)
    · rw [List.mem_singleton.mp hp] at hn
      revert hn
      decide +kernel

end CommandLine

end DeclSplit
