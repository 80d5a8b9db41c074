import DeclSplit.Proofs.Files.Actions
import DeclSplit.Split.Process

/-! The stages of a split on a file tree: reading, finding declarations, writing. -/

namespace DeclSplit

open FileTree (Action)

variable {source : Text} {input : Path} {dir : Option Path} {options : SplitOptions} {tree : FileTree}
variable {events : List SplitEvent} {all : Declarations} {parsed : ParsedSource}

lemma ofSource_found (hr : ParsedSource.read source input = .ok parsed)
    (hs : parsed.declarations.isEmpty = false) :
    Declarations.ofSource source input =
      ⟨parsed.diagnostics.map (.diagnostic input) ++ [.found parsed.declarations.size],
        .ok parsed.declarations⟩ := by
  simp [Declarations.ofSource, hr, hs]

lemma found_of_ofSource (h : Declarations.ofSource source input = ⟨events, .ok all⟩) :
    ∃ parsed, ParsedSource.read source input = .ok parsed ∧ parsed.declarations.isEmpty = false ∧
      parsed.declarations = all ∧
      events = parsed.diagnostics.map (.diagnostic input) ++ [.found all.size] := by
  cases hr : ParsedSource.read source input with
  | error e => simp [Declarations.ofSource, hr] at h
  | ok parsed =>
    cases hs : parsed.declarations.isEmpty with
    | true => simp [Declarations.ofSource, hr, hs] at h
    | false =>
      rw [ofSource_found hr hs] at h
      cases h
      exact ⟨parsed, rfl, hs, rfl, rfl⟩

lemma isOutputError_of_ofSource {e : SplitError}
    (h : Declarations.ofSource source input = ⟨events, .error e⟩) : e.isOutputError = false := by
  cases hr : ParsedSource.read source input with
  | error e' =>
    have he : e' = e := by simpa [Declarations.ofSource, hr] using congrArg Outcome.result h
    simp only [ParsedSource.read] at hr
    split at hr
    · cases hr
    · cases hr
      subst he
      rfl
  | ok parsed =>
    cases hs : parsed.declarations.isEmpty with
    | true =>
      have he : SplitError.noDeclarations = e := by
        simpa [Declarations.ofSource, hr, hs] using congrArg Outcome.result h
      subst he
      rfl
    | false =>
      rw [ofSource_found hr hs] at h
      cases h

lemma load_text (h : tree.readText input = .ok source) :
    (Declarations.load input : Action _) tree = (Declarations.ofSource source input, tree) := by
  simp [Declarations.load, h]

lemma load_error {e : FileError} (h : tree.readText input = .error e) :
    (Declarations.load input : Action _) tree = (⟨[], .error (.inputRead input e)⟩, tree) := by
  simp [Declarations.load, h]

lemma splitSource_found (h : Declarations.ofSource source input = ⟨events, .ok all⟩) :
    (splitSource source input dir options : Action _) tree =
      let rest := (all.write input dir options : Action _) tree
      (⟨events ++ rest.1.events, rest.1.result⟩, rest.2) := by
  simp [splitSource, Outcome.andThenM, h]

lemma splitSource_error {e : SplitError} (h : Declarations.ofSource source input = ⟨events, .error e⟩) :
    (splitSource source input dir options : Action _) tree = (⟨events, .error e⟩, tree) := by
  simp [splitSource, Outcome.andThenM, h]

lemma splitFile_text (h : tree.readText input = .ok source) :
    (splitFile input dir options : Action _) tree = (splitSource source input dir options : Action _) tree := by
  simp [splitFile, splitSource, load_text h]

lemma splitFile_error {e : FileError} (h : tree.readText input = .error e) :
    (splitFile input dir options : Action _) tree = (⟨[], .error (.inputRead input e)⟩, tree) := by
  simp [splitFile, load_error h, Outcome.andThenM]

lemma splitSource_none (source : Text) (input : Path) (options : SplitOptions) (tree : FileTree) :
    ((splitSource source input none options : Action _) tree).2 = tree := by
  rcases hfound : Declarations.ofSource source input with ⟨events, e | all⟩
  · rw [splitSource_error hfound]
  · rw [splitSource_found hfound]
    rfl

lemma splitFile_none (input : Path) (options : SplitOptions) (tree : FileTree) :
    ((splitFile input none options : Action _) tree).2 = tree := by
  cases h : tree.readText input with
  | error e => rw [splitFile_error h]
  | ok source => rw [splitFile_text h, splitSource_none]

inductive SplitRun (tree : FileTree) (input : Path) (dir : Option Path) (options : SplitOptions)
    (source : Text) : Outcome SplitResult × FileTree → Prop
  | ofText : SplitRun tree input dir options source ((splitSource source input dir options : Action _) tree)
  | ofFile : tree.readText input = .ok source →
      SplitRun tree input dir options source ((splitFile input dir options : Action _) tree)

lemma SplitRun.eq_splitSource {ending : Outcome SplitResult × FileTree}
    (ran : SplitRun tree input dir options source ending) :
    (splitSource source input dir options : Action _) tree = ending := by
  cases ran with
  | ofText => rfl
  | ofFile h => exact (splitFile_text h).symm

lemma write_unready {dir : Path} {made : FileTree} {e : FileError}
    (h : tree.makeDirectories dir = (.error e, made)) :
    (all.write input (some dir) options : Action _) tree = (⟨[], .error (.createDirectory dir e)⟩, made) := by
  simp only [Declarations.write, FileTree.run_bind, FileTree.run_exists_, FileTree.run_makeDirectories, h]
  rfl

end DeclSplit
