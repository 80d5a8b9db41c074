import DeclSplit.Proofs.Split.Firsts
import DeclSplit.Proofs.Split.Plans

/-! The dependencies of a declaration: the first of each name that it mentions, its own left out. -/

namespace DeclSplit.Declarations

open Text (references)

variable {all : Declarations} {d : Declaration} {mode : MatchMode}

lemma nodup_dependencies : (all.dependencies d mode).Nodup := nodup_eraseDups _

lemma dependencies_eq_filter : all.dependencies d mode =
    (all.lookedUp.map (·.name)).eraseDups.filter fun name => name ≠ d.name && references d.rawText name mode :=
  eraseDups_filter _ _

theorem dependencies_are_first_mentions (all : Declarations) (d : Declaration) (mode : MatchMode) :
    let declared := all.aliases ++ all.enums ++ all.interfaces
    let names := declared.map (·.name)
    let found := all.dependencies d mode
    found = firsts (names.filter fun name => name ≠ d.name ∧ references d.rawText name mode = true) ∧
    found.Nodup ∧ d.name ∉ found ∧
    (∀ name, name ∈ found ↔
      (∃ other ∈ declared, other.name = name) ∧ name ≠ d.name ∧ references d.rawText name mode = true) ∧
    found.Pairwise fun one other => names.idxOf one < names.idxOf other := by
  intro declared names found
  refine ⟨?_, nodup_dependencies, ?_, fun name => mem_dependencies, ?_⟩
  · rw [← eraseDups_eq_firsts]
    change (names.filter _).eraseDups = _
    congr 2
    funext name
    simp
  · intro h
    exact (mem_dependencies.mp h).2.1 rfl
  · change (all.dependencies d mode).Pairwise _
    rw [dependencies_eq_filter]
    exact (eraseDups_pairwise_idxOf names).filter _

end DeclSplit.Declarations
