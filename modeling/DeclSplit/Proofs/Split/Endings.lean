import DeclSplit.Proofs.Split.Landings
import DeclSplit.Proofs.Split.WritePhase

/-! How a split can end: before anything is touched, at the directory, or in the write phase. -/

namespace DeclSplit

open FileTree (Action)

variable {source : Text} {input dir : Path} {options : SplitOptions} {tree : FileTree}
  {ending : Outcome SplitResult × FileTree}

def ParsedSource.plan (parsed : ParsedSource) (input dir : Path) (options : SplitOptions) : List PlannedFile :=
  parsed.declarations.plan dir (options.extensionFor input) options.mode

/-- The endings of a split of a source into a directory. -/
inductive SplitEnds (tree : FileTree) (source : Text) (input dir : Path) (options : SplitOptions) :
    Outcome SplitResult × FileTree → Prop
  | idle {events e} : e.isOutputError = false →
      SplitEnds tree source input dir options (⟨events, .error e⟩, tree)
  | unready {events parsed cause made} : ParsedSource.read source input = .ok parsed →
      parsed.declarations.isEmpty = false → tree.makeDirectories dir = (.error cause, made) →
      SplitEnds tree source input dir options (⟨events, .error (.createDirectory dir cause)⟩, made)
  | ready {parsed made k ending} : ParsedSource.read source input = .ok parsed →
      parsed.declarations.isEmpty = false → tree.makeDirectories dir = (.ok (), made) →
      WritesUpTo (parsed.plan input dir options) k made
        (parsed.diagnostics.map (.diagnostic input) ++
          [.found parsed.declarations.size, .directory dir (!tree.exists_ dir)])
        ⟨parsed.declarations.size, noteAll (parsed.plan input dir options) []⟩ ending →
      SplitEnds tree source input dir options ending

lemma splitSource_ends (tree : FileTree) (source : Text) (input dir : Path) (options : SplitOptions) :
    SplitEnds tree source input dir options ((splitSource source input (some dir) options : Action _) tree) := by
  rcases hfound : Declarations.ofSource source input with ⟨events, e | all⟩
  · rw [splitSource_error hfound]
    exact .idle (isOutputError_of_ofSource hfound)
  · obtain ⟨parsed, hr, hs, rfl, rfl⟩ := found_of_ofSource hfound
    rw [splitSource_found hfound]
    rcases hm : tree.makeDirectories dir with ⟨cause | u, made⟩
    · rw [write_unready hm]
      exact .unready hr hs hm
    · obtain ⟨k, hk⟩ := write_run hm parsed.declarations input options
      have hp := hk.prepend (parsed.diagnostics.map (.diagnostic input) ++ [.found parsed.declarations.size])
      rw [List.append_assoc] at hp
      exact .ready hr hs hm hp

lemma splitFile_ends (tree : FileTree) (input dir : Path) (options : SplitOptions) :
    let ending := (splitFile input (some dir) options : Action _) tree
    (∃ cause, ending = (⟨[], .error (.inputRead input cause)⟩, tree)) ∨
      ∃ source, tree.readText input = .ok source ∧ SplitEnds tree source input dir options ending := by
  intro ending
  cases ht : tree.readText input with
  | error cause => exact .inl ⟨cause, splitFile_error ht⟩
  | ok source =>
    refine .inr ⟨source, rfl, ?_⟩
    have he : ending = _ := splitFile_text ht
    rw [he]
    exact splitSource_ends tree source input dir options

lemma SplitEnds.keep {P : FileTree → Prop} (ends : SplitEnds tree source input dir options ending)
    (made : ∀ path ∈ FileTree.ancestors dir, ∀ tree later, P tree → tree.makeDirectory path = .ok later → P later)
    (written : ∀ parsed, ParsedSource.read source input = .ok parsed →
      ∀ file ∈ parsed.plan input dir options, ∀ tree later, P tree →
        tree.write file.path (.text file.contents) = .ok later → P later)
    (h : P tree) : P ending.2 := by
  have hmade : P (tree.makeDirectories dir).2 := FileTree.makeDirectoriesAlong_keep made h
  cases ends with
  | idle _ => exact h
  | unready _ _ hm => rwa [hm] at hmade
  | ready hr _ hm hw =>
    rw [hm] at hmade
    exact FileTree.writeAll_keep (fun file hf => written _ hr file (List.mem_of_mem_take hf)) hmade hw.written

lemma SplitEnds.whole {result : SplitResult} (h : SplitEnds tree source input dir options ending)
    (hr : ending.1.result = .ok result) :
    ∃ parsed made, ParsedSource.read source input = .ok parsed ∧ tree.makeDirectories dir = (.ok (), made) ∧
      WritesUpTo (parsed.plan input dir options) (parsed.plan input dir options).length made
        (parsed.diagnostics.map (.diagnostic input) ++
          [.found parsed.declarations.size, .directory dir (!tree.exists_ dir)])
        ⟨parsed.declarations.size, noteAll (parsed.plan input dir options) []⟩ ending := by
  cases h with
  | idle _ => cases hr
  | unready _ _ _ => cases hr
  | ready hread _ hm hw =>
    obtain rfl := hw.ok_iff.mp (by rw [hr]; rfl)
    exact ⟨_, _, hread, hm, hw⟩

lemma SplitEnds.idle_or_found (h : SplitEnds tree source input dir options ending) :
    (ending.2 = tree ∧ ∃ e, ending.1.result = .error e ∧ e.isOutputError = false) ∨
      ((∃ parsed, ParsedSource.read source input = .ok parsed ∧ parsed.declarations.isEmpty = false) ∧
        ∀ e, ending.1.result = .error e → e.isOutputError = true) := by
  cases h with
  | idle he => exact .inl ⟨rfl, _, rfl, he⟩
  | unready hr hs _ =>
    refine .inr ⟨⟨_, hr, hs⟩, ?_⟩
    intro e he
    cases he
    rfl
  | ready hr hs _ hw =>
    refine .inr ⟨⟨_, hr, hs⟩, ?_⟩
    intro e he
    rcases Nat.lt_or_eq_of_le hw.le with hlt | heq
    · obtain ⟨cause, _, hc⟩ := hw.stopped hlt
      rw [hc] at he
      cases he
      rfl
    · rw [hw.done heq] at he
      cases he

lemma Declarations.emitted_ne_nil {all : Declarations} (h : all.isEmpty = false) : all.emitted ≠ [] := by
  intro he
  have hl := all.length_emitted
  rw [he, List.length_nil] at hl
  simp [isEmpty, ← hl] at h

lemma SplitEnds.found {result : SplitResult} (h : SplitEnds tree source input dir options ending)
    (hr : ending.1.result = .ok result) :
    ∃ parsed, ParsedSource.read source input = .ok parsed ∧ parsed.declarations.emitted ≠ [] := by
  rcases h.idle_or_found with ⟨-, e, he, -⟩ | ⟨⟨parsed, hread, hsome⟩, -⟩
  · rw [he] at hr
    cases hr
  · exact ⟨parsed, hread, Declarations.emitted_ne_nil hsome⟩

end DeclSplit
