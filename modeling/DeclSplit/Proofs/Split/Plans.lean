import DeclSplit.Plan
import Mathlib.Data.List.Basic
import Mathlib.Tactic.Lemma
import Mathlib.Tactic.Tauto

/-! What a plan says of each of its files. -/

namespace DeclSplit

lemma Declaration.imports_eq (d : Declaration) (all : Declarations) (mode : MatchMode) :
    d.imports all mode = if d.kind = .enum then [] else all.dependencies d mode := by
  rw [imports]
  cases d.kind <;> rfl

namespace Declarations

variable {dir : Path} {all : Declarations} {d : Declaration} {extension : Text} {mode : MatchMode}
  {file : PlannedFile}

lemma mem_plan : file ∈ all.plan dir extension mode ↔
    ∃ d ∈ all.emitted, all.planFile dir extension mode d = file := List.mem_map

lemma map_declaration_plan (all : Declarations) (dir : Path) (extension : Text) (mode : MatchMode) :
    (all.plan dir extension mode).map (·.declaration) = all.emitted := by
  rw [plan, List.map_map]
  exact List.map_id _

lemma mem_emitted_of_mem_lookedUp (h : d ∈ all.lookedUp) : d ∈ all.emitted := by
  simp only [lookedUp, emitted, List.mem_append] at h ⊢
  tauto

lemma path_of_mem_plan (h : file ∈ all.plan dir extension mode) :
    file.path = dir.join (fileName file.declaration.name extension) := by
  obtain ⟨d, _, rfl⟩ := mem_plan.mp h
  rfl

lemma contents_of_mem_plan (h : file ∈ all.plan dir extension mode) :
    file.contents = (file.declaration.render all mode).contents := by
  obtain ⟨d, _, rfl⟩ := mem_plan.mp h
  rfl

lemma mem_dependencies {name : Text} : name ∈ all.dependencies d mode ↔
    (∃ target ∈ all.lookedUp, target.name = name) ∧ name ≠ d.name ∧ Text.references d.rawText name mode = true := by
  simp [dependencies, List.mem_eraseDups]

lemma mem_imports {name : Text} (h : name ∈ d.imports all mode) :
    name ≠ d.name ∧ ∃ target ∈ all.emitted, target.name = name := by
  have hd : name ∈ all.dependencies d mode := by
    rw [Declaration.imports_eq] at h
    split at h
    · cases h
    · exact h
  obtain ⟨⟨target, ht, hname⟩, hne, -⟩ := mem_dependencies.mp hd
  exact ⟨hne, target, mem_emitted_of_mem_lookedUp ht, hname⟩

def lastNamed (all : Declarations) (name : Text) : Option Declaration :=
  (all.emitted.filter (·.name = name)).getLast?

lemma lastNamed_mem {name : Text} (h : all.lastNamed name = some d) : d ∈ all.emitted ∧ d.name = name := by
  have hm := List.mem_of_getLast? h
  simpa using hm

lemma lastNamed_isSome (h : d ∈ all.emitted) : ∃ last, all.lastNamed d.name = some last := by
  have hm : d ∈ all.emitted.filter (·.name = d.name) := by simpa using h
  exact ⟨_, List.getLast?_eq_some_getLast (List.ne_nil_of_mem hm)⟩

lemma getLast?_plan (all : Declarations) (dir : Path) (extension : Text) (mode : MatchMode) (name : Text) :
    ((all.plan dir extension mode).filter (·.declaration.name = name)).getLast? =
      (all.lastNamed name).map (all.planFile dir extension mode) := by
  rw [plan, List.filter_map, List.getLast?_map]
  rfl

end Declarations

end DeclSplit
