import DeclSplit.Proofs.Split.Reordering

/-! One declaration more.  The files of the others stay where they are, and each of them gains one import or
nothing. -/

namespace DeclSplit

open Text (references)

variable {front back : List Declaration} {d x : Declaration} {mode : MatchMode}

namespace Declarations

def grouped (kinds : List DeclarationKind) (ds : List Declaration) : List Declaration :=
  kinds.flatMap fun kind => ds.filter (·.kind = kind)

lemma emitted_eq_grouped (ds : List Declaration) :
    (ofList ds).emitted = grouped [.enum, .typeAlias, .interface] ds := by
  simp [ofList_eq, emitted, grouped]

lemma lookedUp_eq_grouped (ds : List Declaration) :
    (ofList ds).lookedUp = grouped [.typeAlias, .enum, .interface] ds := by
  simp [ofList_eq, lookedUp, grouped]

lemma grouped_of_notMem {kinds : List DeclarationKind} (hk : x.kind ∉ kinds) :
    grouped kinds (front ++ x :: back) = grouped kinds (front ++ back) := by
  apply List.flatMap_congr
  intro kind hkind
  have hne : x.kind ≠ kind := by
    rintro rfl
    exact hk hkind
  simp [hne]

lemma grouped_insert {kinds : List DeclarationKind} (hn : kinds.Nodup) (hk : x.kind ∈ kinds) :
    ∃ before after, grouped kinds (front ++ back) = before ++ after ∧
      grouped kinds (front ++ x :: back) = before ++ x :: after := by
  obtain ⟨earlier, later, rfl⟩ := List.append_of_mem hk
  have hparts : x.kind ∉ earlier ∧ x.kind ∉ later := by
    rw [List.nodup_append, List.nodup_cons] at hn
    obtain ⟨-, ⟨hlater, -⟩, hapart⟩ := hn
    exact ⟨fun he => hapart _ he _ List.mem_cons_self rfl, hlater⟩
  have hsplit : ∀ ds, grouped (earlier ++ x.kind :: later) ds =
      grouped earlier ds ++ ds.filter (·.kind = x.kind) ++ grouped later ds := by
    intro ds
    simp [grouped]
  refine ⟨grouped earlier (front ++ back) ++ front.filter (·.kind = x.kind),
    back.filter (·.kind = x.kind) ++ grouped later (front ++ back), ?_, ?_⟩
  · rw [hsplit, List.filter_append]
    simp
  · rw [hsplit, grouped_of_notMem hparts.1, grouped_of_notMem hparts.2, List.filter_append]
    simp

lemma emitted_insert (front back : List Declaration) (x : Declaration) : ∃ before after,
    (ofList (front ++ back)).emitted = before ++ after ∧
      (ofList (front ++ x :: back)).emitted = before ++ x :: after := by
  rw [emitted_eq_grouped, emitted_eq_grouped]
  exact grouped_insert (by decide) (by cases x.kind <;> decide)

lemma lookedUp_insert (front back : List Declaration) (x : Declaration) : ∃ before after,
    (ofList (front ++ back)).lookedUp = before ++ after ∧
      (ofList (front ++ x :: back)).lookedUp = before ++ x :: after := by
  rw [lookedUp_eq_grouped, lookedUp_eq_grouped]
  exact grouped_insert (by decide) (by cases x.kind <;> decide)

lemma filter_dependencies_insert (hx : ∀ d ∈ front ++ back, d.name ≠ x.name) (d : Declaration)
    (mode : MatchMode) : ((ofList (front ++ x :: back)).dependencies d mode).filter (· ≠ x.name) =
      (ofList (front ++ back)).dependencies d mode := by
  obtain ⟨before, after, hold, hnew⟩ := lookedUp_insert front back x
  have hothers : ∀ name ∈ (before ++ after).map (·.name), name ≠ x.name := by
    intro name hname
    rw [← hold] at hname
    obtain ⟨other, ho, rfl⟩ := List.mem_map.mp hname
    exact hx other (mem_emitted_ofList.mp (mem_emitted_of_mem_lookedUp ho))
  have hnames : ((ofList (front ++ x :: back)).lookedUp.map (·.name)).filter (· ≠ x.name) =
      (ofList (front ++ back)).lookedUp.map (·.name) := by
    rw [hnew, hold, List.map_append, List.map_cons, List.filter_append,
      List.filter_cons_of_neg (by simp), ← List.filter_append, ← List.map_append, List.filter_eq_self]
    simpa using hothers
  rw [dependencies, dependencies, ← eraseDups_filter, List.filter_comm, hnames]

lemma mem_dependencies_insert (hd : d.name ≠ x.name) :
    x.name ∈ (ofList (front ++ x :: back)).dependencies d mode ↔ references d.rawText x.name mode = true := by
  have hdeclared : x ∈ (ofList (front ++ x :: back)).lookedUp := by
    rw [(lookedUp_perm_emitted _).mem_iff, mem_emitted_ofList]
    simp
  rw [mem_dependencies]
  constructor
  · rintro ⟨-, -, href⟩
    exact href
  · intro href
    exact ⟨⟨x, hdeclared, rfl⟩, hd.symm, href⟩

lemma imports_insert (hx : ∀ d ∈ front ++ back, d.name ≠ x.name) (hd : d ∈ front ++ back) (mode : MatchMode) :
    ((d.kind ≠ .enum ∧ references d.rawText x.name mode = true) ∧ ∃ before after,
        d.imports (ofList (front ++ back)) mode = before ++ after ∧
        d.imports (ofList (front ++ x :: back)) mode = before ++ x.name :: after) ∨
      (¬ (d.kind ≠ .enum ∧ references d.rawText x.name mode = true) ∧
        d.imports (ofList (front ++ x :: back)) mode = d.imports (ofList (front ++ back)) mode) := by
  have hothers := filter_dependencies_insert hx d mode
  have hmem : x.name ∈ (ofList (front ++ x :: back)).dependencies d mode ↔ _ :=
    mem_dependencies_insert (hx d hd)
  rw [Declaration.imports_eq, Declaration.imports_eq]
  by_cases hk : d.kind = .enum
  · right
    simp [hk]
  rw [if_neg hk, if_neg hk, ← hothers]
  by_cases href : references d.rawText x.name mode = true
  · left
    refine ⟨⟨hk, href⟩, ?_⟩
    obtain ⟨before, after, -, hsplit, herase⟩ := List.exists_erase_eq (hmem.mpr href)
    refine ⟨before, after, ?_, hsplit⟩
    rw [← herase, nodup_dependencies.erase_eq_filter]
    apply List.filter_congr
    intro name _
    rw [decide_not, bne, beq_eq_decide]
  · right
    refine ⟨fun h => href h.2, ?_⟩
    rw [eq_comm, List.filter_eq_self]
    intro name hname
    have hne : name ≠ x.name := by
      rintro rfl
      exact href (hmem.mp hname)
    simpa using hne

end Declarations

structure PlannedFile.Follows (x : Declaration) (mode : MatchMode) (file file' : PlannedFile) : Prop where
  declaration : file'.declaration = file.declaration
  path : file'.path = file.path
  changed_iff : file'.contents ≠ file.contents ↔
    file.declaration.kind ≠ .enum ∧ references file.declaration.rawText x.name mode = true
  unchanged : file'.contents = file.contents → file'.imports = file.imports
  changed : file'.contents ≠ file.contents → file'.imports = file.imports + 1 ∧ ∃ before after,
    file.contents = importBlock before ++ importBlock after ++ file.declaration.body ∧
    file'.contents = importBlock before ++ importLine x.name ++ importBlock after ++ file.declaration.body

lemma importBlock_insert (before after : List Text) (name : Text) :
    importBlock (before ++ name :: after) = importBlock before ++ importLine name ++ importBlock after := by
  rw [importBlock_append, importBlock_cons, List.append_assoc]

lemma importBlock_insert_ne (before after : List Text) (name body : Text) :
    importBlock (before ++ name :: after) ++ body ≠ importBlock (before ++ after) ++ body := by
  intro heq
  have hline := List.length_pos_iff.mpr (importLine_ne_nil name)
  have hlength := congrArg List.length heq
  rw [importBlock_insert, importBlock_append] at hlength
  simp only [List.length_append] at hlength
  omega

lemma Declarations.planFile_follows (hx : ∀ d ∈ front ++ back, d.name ≠ x.name) (hd : d ∈ front ++ back)
    (dir : Path) (extension : Text) (mode : MatchMode) :
    PlannedFile.Follows x mode ((ofList (front ++ back)).planFile dir extension mode d)
      ((ofList (front ++ x :: back)).planFile dir extension mode d) := by
  rcases imports_insert hx hd mode with ⟨hgains, before, after, hold, hnew⟩ | ⟨hkeeps, hsame⟩
  · have hlonger := importBlock_insert_ne before after x.name d.body
    refine ⟨rfl, rfl, ?_, ?_, ?_⟩ <;> simp only [planFile, Declaration.render, hold, hnew]
    · exact ⟨fun _ => hgains, fun _ => hlonger⟩
    · intro heq
      exact absurd heq hlonger
    · rintro -
      refine ⟨by simp only [List.length_append, List.length_cons]; omega, before, after, ?_, ?_⟩
      · rw [importBlock_append]
      · rw [importBlock_insert]
  · refine ⟨rfl, rfl, ?_, ?_, ?_⟩ <;> simp only [planFile, Declaration.render, hsame]
    · exact ⟨fun h => absurd rfl h, fun h => absurd h hkeeps⟩
    · exact fun _ => trivial
    · exact fun h => absurd rfl h

theorem added_declaration_adds_imports (hx : ∀ d ∈ front ++ back, d.name ≠ x.name) (dir : Path)
    (extension : Text) (mode : MatchMode) :
    let old := Declarations.ofList (front ++ back)
    let new := Declarations.ofList (front ++ x :: back)
    (∀ d ∈ front ++ back,
      (new.dependencies d mode).filter (· ≠ x.name) = old.dependencies d mode ∧
      (new.dependencies d mode).count x.name = if references d.rawText x.name mode then 1 else 0) ∧
    ∃ before after,
      new.plan dir extension mode = before ++ new.planFile dir extension mode x :: after ∧
      List.Forall₂ (PlannedFile.Follows x mode) (old.plan dir extension mode) (before ++ after) := by
  intro old new
  constructor
  · intro d hd
    refine ⟨Declarations.filter_dependencies_insert hx d mode, ?_⟩
    rw [Declarations.nodup_dependencies.count]
    exact if_congr (Declarations.mem_dependencies_insert (hx d hd)) rfl rfl
  · obtain ⟨before, after, hold, hnew⟩ := Declarations.emitted_insert front back x
    refine ⟨before.map (new.planFile dir extension mode), after.map (new.planFile dir extension mode), ?_, ?_⟩
    · rw [Declarations.plan, hnew, List.map_append, List.map_cons]
    · rw [Declarations.plan, hold, ← List.map_append, List.forall₂_map_left_iff, List.forall₂_map_right_iff,
        List.forall₂_same]
      intro d hd
      rw [← hold, Declarations.mem_emitted_ofList] at hd
      exact Declarations.planFile_follows hx hd dir extension mode

theorem added_type_imported_between :
    let old := Declarations.ofList ([firstType] ++ [eitherType, choiceEnum, firstType])
    let new := Declarations.ofList ([firstType] ++ secondType :: [eitherType, choiceEnum, firstType])
    (new.dependencies eitherType .word).filter (· ≠ secondType.name) = old.dependencies eitherType .word ∧
    (new.dependencies eitherType .word).count secondType.name = 1 ∧
    references choiceEnum.rawText secondType.name .word = true ∧
    ∃ before after,
      new.plan "out" "ts" .word = before ++ new.planFile "out" "ts" .word secondType :: after ∧
      List.Forall₂ (PlannedFile.Follows secondType .word) (old.plan "out" "ts" .word) (before ++ after) := by
  intro old new
  have hx : ∀ d ∈ [firstType] ++ [eitherType, choiceEnum, firstType], d.name ≠ secondType.name := by decide
  obtain ⟨hdependencies, hplan⟩ := added_declaration_adds_imports hx "out" "ts" .word
  obtain ⟨hothers, hcount⟩ := hdependencies eitherType (by simp)
  have href : references eitherType.rawText secondType.name .word = true := by decide +kernel
  rw [if_pos href] at hcount
  exact ⟨hothers, hcount, by decide +kernel, hplan⟩

end DeclSplit
