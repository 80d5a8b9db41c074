import DeclSplit.Proofs.Split.Declared
import DeclSplit.Proofs.Split.Plans

/-! Imports are by name.  What stands in the file that a name is imported from is exported by that name unless it
comes from a default export, which only the last interface of the name can be. -/

namespace DeclSplit

open Text

variable {source : Text} {input dir : Path} {parsed : ParsedSource} {statement : Statement} {d : Declaration}
  {file : PlannedFile} {name extension : Text} {mode : MatchMode}

def StatementForm.exportsByName : StatementForm → Bool
  | exportedDefault _ => false
  | _ => true

namespace Statement

def declaresInterface (source name : Text) (s : Statement) : Bool :=
  (s.declaration? source).any fun d => d.kind = .interface ∧ d.name = name

def exportedText (source : Text) (s : Statement) : Text :=
  match s.form with
  | .bare _ => "export " ++ slice source s.span.start s.span.stop
  | _ => slice source s.span.start s.span.stop

lemma body_of_declaration? (h : statement.declaration? source = some d) : d.body = statement.exportedText source := by
  obtain ⟨⟨⟨kind, text⟩, isExported⟩, hi, rfl⟩ := Option.map_eq_some_iff.mp h
  obtain ⟨span, form⟩ := statement
  cases form with
  | bare declared =>
    obtain ⟨_, _, he⟩ := Option.map_eq_some_iff.mp hi
    cases he
    rfl
  | exported inner =>
    cases inner with
    | none => cases hi
    | some inner =>
      obtain ⟨_, _, he⟩ := Option.map_eq_some_iff.mp hi
      cases he
      rfl
  | exportedDefault inner =>
    obtain ⟨place, declared⟩ := inner
    cases declared <;> cases hi
    rfl
  | other => cases hi

lemma exportsByName_of_kind (h : statement.declaration? source = some d) (hk : d.kind ≠ .interface) :
    statement.form.exportsByName = true := by
  obtain ⟨⟨⟨kind, text⟩, isExported⟩, hi, rfl⟩ := Option.map_eq_some_iff.mp h
  obtain ⟨span, form⟩ := statement
  cases form with
  | exportedDefault inner =>
    obtain ⟨place, declared⟩ := inner
    cases declared <;> cases hi
    exact absurd rfl hk
  | _ => rfl

end Statement

namespace Declarations

lemma getLast?_filter_filterMap {α β : Type} (f : α → Option β) (p : β → Bool) (l : List α) :
    ((l.filterMap f).filter p).getLast? = (l.filter fun a => (f a).any p).getLast?.bind f := by
  induction l using List.reverseRecOn with
  | nil => rfl
  | append_singleton l a ih =>
    rw [List.filterMap_append, List.filter_append, List.filter_append, List.getLast?_append, List.getLast?_append, ih]
    cases hf : f a with
    | none => simp [hf]
    | some b => cases hp : p b <;> simp [hf, hp]

lemma lastNamed_eq (all : Declarations) (name : Text) : all.lastNamed name =
    (all.interfaces.filter (·.name = name)).getLast?.or
      ((all.enums ++ all.aliases).filter (·.name = name)).getLast? := by
  rw [lastNamed, emitted, List.filter_append, List.getLast?_append]

end Declarations

namespace ParsedSource

lemma getLast?_interfaces (hr : read source input = .ok parsed) (name : Text) :
    (parsed.declarations.interfaces.filter (·.name = name)).getLast? =
      ((Program.parse input.dialect source).statements.filter (·.declaresInterface source name)).getLast?.bind
        (Statement.declaration? source) := by
  have hgroup : parsed.declarations.interfaces.filter (·.name = name) =
      ((Program.parse input.dialect source).declarationList source).filter
        fun d => d.kind = .interface ∧ d.name = name := by
    rw [declarations_of_read hr, Program.declarations, Declarations.ofList_eq, List.filter_filter]
    apply List.filter_congr
    intro d _
    simp [Bool.and_comm]
  rw [hgroup]
  exact Declarations.getLast?_filter_filterMap ..

lemma kind_of_mem_others (hr : read source input = .ok parsed)
    (hd : d ∈ parsed.declarations.enums ++ parsed.declarations.aliases) : d.kind ≠ .interface := by
  rw [declarations_of_read hr, Program.declarations, Declarations.ofList_eq] at hd
  simp only [List.mem_append, List.mem_filter, decide_eq_true_eq] at hd
  rcases hd with ⟨-, hk⟩ | ⟨-, hk⟩ <;> simp [hk]

theorem imported_name_exported_iff (hr : read source input = .ok parsed)
    (hf : file ∈ parsed.declarations.plan dir extension mode)
    (hn : name ∈ file.declaration.imports parsed.declarations mode) :
    file.contents = importBlock (file.declaration.imports parsed.declarations mode) ++ file.declaration.body ∧
    ∃ last statement,
      ((parsed.declarations.plan dir extension mode).filter (·.declaration.name = name)).getLast? = some last ∧
      statement ∈ (Program.parse input.dialect source).statements ∧
      statement.declaration? source = some last.declaration ∧
      last.contents = importBlock (last.declaration.imports parsed.declarations mode) ++
        statement.exportedText source ∧
      (statement.form.exportsByName = true ↔
        ∀ interface ∈ ((Program.parse input.dialect source).statements.filter
          (·.declaresInterface source name)).getLast?, interface.form.exportsByName = true) := by
  refine ⟨Declarations.contents_of_mem_plan hf, ?_⟩
  obtain ⟨-, target, ht, rfl⟩ := Declarations.mem_imports hn
  obtain ⟨d, hd⟩ := Declarations.lastNamed_isSome ht
  have hlast := Declarations.getLast?_plan parsed.declarations dir extension mode target.name
  rw [hd, Option.map_some] at hlast
  have hcontents : (parsed.declarations.planFile dir extension mode d).contents =
      importBlock (d.imports parsed.declarations mode) ++ d.body := rfl
  rw [Declarations.lastNamed_eq, getLast?_interfaces hr] at hd
  -- An interface of the name is written after all else that has it, and hides it.
  cases hi : ((Program.parse input.dialect source).statements.filter
      (·.declaresInterface source target.name)).getLast? with
  | some interface =>
    obtain ⟨hmem, hdeclares⟩ := List.mem_filter.mp (List.mem_of_getLast? hi)
    have hinterface : interface.declaration? source = some d := by
      rw [hi, Option.bind_some] at hd
      cases ho : interface.declaration? source with
      | none => simp [Statement.declaresInterface, ho] at hdeclares
      | some other =>
        rw [ho] at hd
        exact hd
    refine ⟨_, interface, hlast, hmem, hinterface, ?_, by simp⟩
    rw [hcontents, Statement.body_of_declaration? hinterface]
    rfl
  | none =>
    rw [hi, Option.bind_none, Option.none_or] at hd
    have hother := (List.mem_filter.mp (List.mem_of_getLast? hd)).1
    have hemitted : d ∈ parsed.declarations.emitted := List.mem_append_left _ hother
    obtain ⟨statement, hs, hdeclared⟩ := (mem_emitted_iff hr).mp hemitted
    refine ⟨_, statement, hlast, hs, hdeclared, ?_, ?_⟩
    · rw [hcontents, Statement.body_of_declaration? hdeclared]
      rfl
    · simp [Statement.exportsByName_of_kind hdeclared (kind_of_mem_others hr hother)]

def defaulted : ParsedSource :=
  ⟨{ aliases := [⟨"T", .typeAlias, "type T = I;", false, ⟨30, 41⟩⟩],
     interfaces := [⟨"I", .interface, "export default interface I \x7b\x7d", true, ⟨0, 29⟩⟩] }, []⟩

theorem default_export_imported_by_name :
    read "export default interface I \x7b\x7d\ntype T = I;" "a.ts" = .ok defaulted ∧
      defaulted.declarations.plan "out" "ts" .substring =
        [⟨⟨"T", .typeAlias, "type T = I;", false, ⟨30, 41⟩⟩, "out/T.ts",
            "import \x7b I \x7d from './I';\nexport type T = I;", 1⟩,
          ⟨⟨"I", .interface, "export default interface I \x7b\x7d", true, ⟨0, 29⟩⟩, "out/I.ts",
            "export default interface I \x7b\x7d", 0⟩] ∧
      ((Program.parse (Path.dialect "a.ts") "export default interface I \x7b\x7d\ntype T = I;").statements.map
        (·.form.exportsByName)) = [false, true] := by
  decide +kernel

def mergedText : Text := "export default interface I \x7b\x7d interface I \x7b c \x7d type T = I;"

def merged : Declarations where
  aliases := [⟨"T", .typeAlias, "type T = I;", false, ⟨48, 59⟩⟩]
  interfaces := [⟨"I", .interface, "export default interface I \x7b\x7d", true, ⟨0, 29⟩⟩,
    ⟨"I", .interface, "interface I \x7b c \x7d", false, ⟨30, 47⟩⟩]

theorem merged_imported_by_name :
    read mergedText "a.ts" = .ok ⟨merged, []⟩ ∧
      ∃ file ∈ merged.plan "out" "ts" .word, "I".toList ∈ file.declaration.imports merged .word ∧
        ∃ last, ((merged.plan "out" "ts" .word).filter (·.declaration.name = "I".toList)).getLast? = some last ∧
          ∃ statement ∈ (Program.parse (Path.dialect "a.ts") mergedText).statements,
            statement.declaration? mergedText = some last.declaration ∧ statement.form.exportsByName = true := by
  have hr : read mergedText "a.ts" = .ok ⟨merged, []⟩ := by decide +kernel
  have hn : "I".toList ∈ (⟨"T", .typeAlias, "type T = I;", false, ⟨48, 59⟩⟩ : Declaration).imports merged .word := by
    decide +kernel
  have hf : merged.planFile "out" "ts" .word ⟨"T", .typeAlias, "type T = I;", false, ⟨48, 59⟩⟩ ∈
      merged.plan "out" "ts" .word := Declarations.mem_plan.mpr ⟨_, by decide +kernel, rfl⟩
  obtain ⟨-, last, statement, hlast, hs, hd, -, hiff⟩ := imported_name_exported_iff hr hf hn
  have hinterfaces : ∀ interface ∈ ((Program.parse (Path.dialect "a.ts") mergedText).statements.filter
      (·.declaresInterface mergedText "I")).getLast?, interface.form.exportsByName = true := by decide +kernel
  exact ⟨hr, _, hf, hn, last, hlast, statement, hs, hd, hiff.mpr hinterfaces⟩

end ParsedSource

end DeclSplit
