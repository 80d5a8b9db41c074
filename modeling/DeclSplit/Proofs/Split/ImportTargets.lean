import DeclSplit.Proofs.Split.Endings
import DeclSplit.Proofs.Split.Landings
import DeclSplit.Proofs.Split.Plans

/-! Imports have targets: a name in an import block is another declaration's, whose file was written and is
there. -/

namespace DeclSplit

open FileTree (Action)

variable {source : Text} {input dir : Path} {options : SplitOptions} {tree made final : FileTree}
  {events : List SplitEvent} {result : SplitResult}

lemma lookup_cons_of_ne {name other : Text} (h : other ≠ name) (path : Path) (rest : List (Text × Path)) :
    ((name, path) :: rest).lookup other = rest.lookup other := by
  rw [List.lookup_cons, beq_false_of_ne h]

lemma lookup_noteFile (name other : Text) (path : Path) (noted : List (Text × Path)) :
    (noteFile name path noted).lookup other = if other = name then some path else noted.lookup other := by
  induction noted with
  | nil =>
    by_cases ho : other = name
    · simp [noteFile, ho]
    · rw [noteFile, lookup_cons_of_ne ho, if_neg ho]
  | cons entry rest ih =>
    obtain ⟨first, old⟩ := entry
    rw [noteFile]
    by_cases hf : first = name
    · subst hf
      by_cases ho : other = first
      · simp [ho]
      · simp [lookup_cons_of_ne ho, ho]
    · rw [if_neg hf]
      by_cases ho : other = first
      · subst ho
        simp [hf]
      · rw [lookup_cons_of_ne ho, lookup_cons_of_ne ho, ih]

lemma lookup_noteAll {plan : List PlannedFile} {place : Text → Path}
    (hp : ∀ file ∈ plan, file.path = place file.declaration.name) {name : Text}
    (noted : List (Text × Path))
    (hn : name ∈ plan.map (·.declaration.name) ∨ noted.lookup name = some (place name)) :
    (noteAll plan noted).lookup name = some (place name) := by
  induction plan generalizing noted with
  | nil => simpa [noteAll] using hn
  | cons file plan ih =>
    rw [noteAll, List.foldl_cons]
    apply ih (fun file hf => hp file (List.mem_cons_of_mem _ hf))
    rw [lookup_noteFile]
    by_cases hf : name = file.declaration.name
    · right
      rw [if_pos hf, hp file (List.mem_cons_self ..), hf]
    · rw [if_neg hf]
      simpa [hf] using hn

theorem imports_have_written_targets
    (ran : SplitRun tree input (some dir) options source (⟨events, .ok result⟩, final)) :
    ∃ parsed made, ParsedSource.read source input = .ok parsed ∧ tree.makeDirectories dir = (.ok (), made) ∧
      let all := parsed.declarations
      let place := fun name : Text => dir.join (fileName name (options.extensionFor input))
      let plan := all.plan dir (options.extensionFor input) options.mode
      made.writeAll plan = .ok final ∧
      ∀ d path count, .wrote d path count ∈ events →
        (∃ file ∈ plan, file.event = .wrote d path count ∧
          file.contents = importBlock (d.imports all options.mode) ++ d.body) ∧
        ∀ name ∈ d.imports all options.mode,
          name ≠ d.name ∧
          result.files.lookup name = some (place name) ∧
          (∃ contents, final.entryAt (place name) = .ok (.file contents)) ∧
          ∃ target ∈ plan, target.declaration.name = name ∧ target.path = place name ∧
            target.contents = (target.declaration.render all options.mode).contents ∧
            target.event ∈ events := by
  have ends := splitSource_ends tree source input dir options
  rw [ran.eq_splitSource] at ends
  obtain ⟨parsed, made, hr, hm, hw⟩ := ends.whole rfl
  simp only [ParsedSource.plan] at hw
  have written : made.writeAll (parsed.declarations.plan dir (options.extensionFor input) options.mode) =
      .ok final := by simpa using hw.written
  have told : events = _ := hw.events
  rw [List.take_length] at told
  have mapped : result = _ := Except.ok.inj (hw.done rfl)
  refine ⟨parsed, made, hr, hm, ?_⟩
  intro all place plan
  refine ⟨written, ?_⟩
  intro d path count hd
  have hfile : ∃ file ∈ plan, file.event = .wrote d path count := by
    simpa [told, plan, all] using hd
  obtain ⟨file, hfile, he⟩ := hfile
  refine ⟨⟨file, hfile, he, ?_⟩, ?_⟩
  · cases he
    exact Declarations.contents_of_mem_plan hfile
  intro name hn
  obtain ⟨hne, declared, hdecl, rfl⟩ := Declarations.mem_imports hn
  let target := all.planFile dir (options.extensionFor input) options.mode declared
  have ht : target ∈ plan := Declarations.mem_plan.mpr ⟨declared, hdecl, rfl⟩
  refine ⟨hne, ?_, FileTree.entryAt_writeAll written ht, target, ht, rfl, rfl, rfl, ?_⟩
  · rw [mapped]
    exact lookup_noteAll (fun _ => Declarations.path_of_mem_plan) []
      (.inl (List.mem_map.mpr ⟨target, ht, rfl⟩))
  · rw [told]
    exact List.mem_append_right _ (List.mem_map.mpr ⟨target, ht, rfl⟩)

def circle : FileTree := ⟨[(["a.ts"], .file (.text "interface A { b: B } type B = A;"))]⟩

theorem circle_imports_have_written_targets :
    circle.readText "a.ts" = .ok "interface A { b: B } type B = A;" ∧
      ∃ events result final,
        SplitRun circle "a.ts" (some "out") {} "interface A { b: B } type B = A;" (⟨events, .ok result⟩, final) ∧
        .wrote ⟨"B", .typeAlias, "type B = A;", false, ⟨21, 32⟩⟩ "out/B.ts" 1 ∈ events ∧
        ∃ parsed, ParsedSource.read "interface A { b: B } type B = A;" "a.ts" = .ok parsed ∧
          ∀ name ∈ (⟨"B", .typeAlias, "type B = A;", false, ⟨21, 32⟩⟩ : Declaration).imports
            parsed.declarations .substring,
          result.files.lookup name = some (Path.join "out" (fileName name "ts")) := by
  have text : circle.readText "a.ts" = .ok "interface A { b: B } type B = A;" := by decide +kernel
  have ran : SplitRun circle "a.ts" (some "out") {} _ ((splitFile "a.ts" (some "out") {} : Action _) circle) :=
    .ofFile text
  have ended : ((splitFile "a.ts" (some "out") {} : Action _) circle).1.result.isOk = true := by decide +kernel
  have told : SplitEvent.wrote ⟨"B", .typeAlias, "type B = A;", false, ⟨21, 32⟩⟩ "out/B.ts" 1 ∈
      ((splitFile "a.ts" (some "out") {} : Action _) circle).1.events := by decide +kernel
  rcases hrun : (splitFile "a.ts" (some "out") {} : Action _) circle with ⟨⟨events, e | result⟩, final⟩
  · rw [hrun] at ended
    cases ended
  · rw [hrun] at ran told
    obtain ⟨parsed, _, hr, _, _, ht⟩ := imports_have_written_targets ran
    exact ⟨text, events, result, final, ran, told, parsed, hr, fun name hn => ((ht _ _ _ told).2 name hn).2.1⟩

end DeclSplit
