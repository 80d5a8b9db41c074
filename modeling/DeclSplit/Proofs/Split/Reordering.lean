import DeclSplit.Proofs.Split.Declared
import DeclSplit.Proofs.Split.Dependencies

/-! Declarations in another order are split into the same files, but for the order of their imports. -/

namespace DeclSplit

namespace Declarations

variable {all all' : Declarations} {d : Declaration} {ds : List Declaration}

lemma emitted_push (all : Declarations) (d : Declaration) :
    (all.push d).emitted.Perm (all.emitted ++ [d]) := by
  rw [List.perm_iff_count]
  intro other
  cases hk : d.kind <;> simp only [push, emitted, hk, List.count_append] <;> omega

lemma emitted_foldl_push (ds : List Declaration) (all : Declarations) :
    (ds.foldl push all).emitted.Perm (all.emitted ++ ds) := by
  induction ds generalizing all with
  | nil => simp
  | cons d ds ih =>
    rw [List.foldl_cons, ← List.singleton_append, ← List.append_assoc]
    exact (ih (all.push d)).trans ((emitted_push all d).append_right ds)

lemma emitted_ofList (ds : List Declaration) : (ofList ds).emitted.Perm ds := emitted_foldl_push ds {}

lemma lookedUp_perm_emitted (all : Declarations) : all.lookedUp.Perm all.emitted :=
  List.perm_append_comm.append_right _

lemma dependencies_perm (h : all.emitted.Perm all'.emitted) (d : Declaration) (mode : MatchMode) :
    (all.dependencies d mode).Perm (all'.dependencies d mode) := by
  have hlookedUp : all.lookedUp.Perm all'.lookedUp :=
    (lookedUp_perm_emitted all).trans (h.trans (lookedUp_perm_emitted all').symm)
  apply eraseDups_perm
  apply List.Perm.filter
  exact hlookedUp.map _

lemma imports_perm (h : all.emitted.Perm all'.emitted) (d : Declaration) (mode : MatchMode) :
    (d.imports all mode).Perm (d.imports all' mode) := by
  rw [Declaration.imports, Declaration.imports]
  cases d.kind with
  | enum => exact List.Perm.refl _
  | typeAlias | interface => exact dependencies_perm h d mode

lemma filter_name_eq (hn : (ds.map (·.name)).Nodup) (hd : d ∈ ds) : ds.filter (·.name = d.name) = [d] := by
  induction ds with
  | nil => cases hd
  | cons first rest ih =>
    rw [List.map_cons, List.nodup_cons] at hn
    obtain ⟨hfirst, hrest⟩ := hn
    rcases List.mem_cons.mp hd with rfl | hd
    · have hnone : rest.filter (·.name = d.name) = [] := by
        rw [List.filter_eq_nil_iff]
        intro other ho hname
        apply hfirst
        rw [← of_decide_eq_true hname]
        exact List.mem_map_of_mem ho
      simp [hnone]
    · have hne : first.name ≠ d.name := by
        intro he
        apply hfirst
        rw [he]
        exact List.mem_map_of_mem hd
      simp [hne, ih hrest hd]

lemma filter_plan (hn : (all.emitted.map (·.name)).Nodup) (hd : d ∈ all.emitted) (dir : Path) (extension : Text)
    (mode : MatchMode) : (all.plan dir extension mode).filter (·.declaration.name = d.name) =
      [all.planFile dir extension mode d] := by
  rw [plan, List.filter_map]
  exact congrArg (List.map _) (filter_name_eq hn hd)

end Declarations

structure PlannedFile.Reimported (file file' : PlannedFile) : Prop where
  path : file'.path = file.path
  declaration : file'.declaration = file.declaration
  imports : file'.imports = file.imports
  contents : ∃ lines lines' : List Text, lines'.Perm lines ∧ lines.length = file.imports ∧
    (∀ line ∈ lines, ∃ name, line = importLine name) ∧
    file.contents = lines.flatten ++ file.declaration.body ∧
    file'.contents = lines'.flatten ++ file.declaration.body

lemma Declarations.planFile_reimported {all all' : Declarations} (h : all.emitted.Perm all'.emitted) (dir : Path)
    (extension : Text) (mode : MatchMode) (d : Declaration) :
    (all.planFile dir extension mode d).Reimported (all'.planFile dir extension mode d) where
  path := rfl
  declaration := rfl
  imports := (imports_perm h d mode).length_eq.symm
  contents := by
    refine ⟨(d.imports all mode).map importLine, (d.imports all' mode).map importLine,
      (imports_perm h d mode).symm.map _, List.length_map _, ?_, ?_, ?_⟩
    · intro line hl
      obtain ⟨name, -, rfl⟩ := List.mem_map.mp hl
      exact ⟨name, rfl⟩
    · rw [← List.flatMap_def]
      rfl
    · rw [← List.flatMap_def]
      rfl

theorem reordered_declarations_reorder_imports {ds ds' : List Declaration} (hp : ds.Perm ds')
    (hn : (ds.map (·.name)).Nodup) (dir : Path) (extension : Text) (mode : MatchMode) :
    let plan := (Declarations.ofList ds).plan dir extension mode
    let plan' := (Declarations.ofList ds').plan dir extension mode
    (∀ name ∈ ds.map (·.name), ∃ file file' : PlannedFile,
      plan.filter (·.declaration.name = name) = [file] ∧
      plan'.filter (·.declaration.name = name) = [file'] ∧ file.Reimported file') ∧
    ((∀ kind, ds.filter (·.kind = kind) = ds'.filter (·.kind = kind)) → plan' = plan) := by
  intro plan plan'
  have hds := Declarations.emitted_ofList ds
  have hds' := Declarations.emitted_ofList ds'
  constructor
  · intro name hname
    obtain ⟨d, hd, rfl⟩ := List.mem_map.mp hname
    have hn' : (ds'.map (·.name)).Nodup := (hp.map _).nodup_iff.mp hn
    have hplan := Declarations.filter_plan ((hds.map _).nodup_iff.mpr hn) (hds.mem_iff.mpr hd) dir extension mode
    have hplan' := Declarations.filter_plan ((hds'.map _).nodup_iff.mpr hn')
      (hds'.mem_iff.mpr (hp.mem_iff.mp hd)) dir extension mode
    have hsame := hds.trans (hp.trans hds'.symm)
    exact ⟨_, _, hplan, hplan', Declarations.planFile_reimported hsame dir extension mode d⟩
  · intro hkinds
    have hgroups : Declarations.ofList ds' = Declarations.ofList ds := by
      rw [Declarations.ofList_eq, Declarations.ofList_eq, hkinds, hkinds, hkinds]
    change (Declarations.ofList ds').plan dir extension mode = _
    rw [hgroups]

def firstType : Declaration := ⟨"A", .typeAlias, "type A = 1;", false, ⟨0, 11⟩⟩

def secondType : Declaration := ⟨"B", .typeAlias, "type B = 2;", false, ⟨12, 23⟩⟩

def eitherType : Declaration := ⟨"C", .typeAlias, "type C = A | B | D;", false, ⟨24, 43⟩⟩

def choiceEnum : Declaration := ⟨"D", .enum, "enum D \x7b A, B \x7d", false, ⟨44, 59⟩⟩

theorem swapped_types_swap_imports :
    let plan (ds : List Declaration) := (Declarations.ofList ds).plan "out" "ts" .word
    let importing (ds : List Declaration) := (plan ds).filter (·.declaration.name = "C".toList)
    (∃ file file', importing [firstType, secondType, eitherType, choiceEnum] = [file] ∧
      importing [secondType, firstType, eitherType, choiceEnum] = [file'] ∧
      file.Reimported file' ∧ file.contents ≠ file'.contents) ∧
    plan [choiceEnum, firstType, secondType, eitherType] =
      plan [firstType, secondType, eitherType, choiceEnum] := by
  intro plan importing
  have hn : ([firstType, secondType, eitherType, choiceEnum].map (·.name)).Nodup := by decide
  have hswap : [firstType, secondType, eitherType, choiceEnum].Perm
      [secondType, firstType, eitherType, choiceEnum] := by decide
  have hmove : [firstType, secondType, eitherType, choiceEnum].Perm
      [choiceEnum, firstType, secondType, eitherType] := by decide
  obtain ⟨hfiles, -⟩ := reordered_declarations_reorder_imports hswap hn "out" "ts" .word
  obtain ⟨-, hplan⟩ := reordered_declarations_reorder_imports hmove hn "out" "ts" .word
  refine ⟨?_, hplan fun kind => by cases kind <;> decide⟩
  obtain ⟨file, file', hf, hf', hsame⟩ := hfiles "C" (by decide)
  refine ⟨file, file', hf, hf', hsame, ?_⟩
  have hdiffer : (importing [firstType, secondType, eitherType, choiceEnum]).map (·.contents) ≠
      (importing [secondType, firstType, eitherType, choiceEnum]).map (·.contents) := by decide +kernel
  intro heq
  apply hdiffer
  change List.map _ (List.filter _ _) = List.map _ (List.filter _ _)
  rw [hf, hf', List.map_singleton, List.map_singleton, heq]

end DeclSplit
