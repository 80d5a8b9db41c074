import DeclSplit.Proofs.Split.Dependencies
import DeclSplit.Proofs.Text.WholeWords

/-! The dependencies by words are those by substrings, less the names that only stand inside longer words. -/

namespace DeclSplit.Declarations

open Text

variable {all : Declarations} {d : Declaration} {name inner : Text}

lemma dependencies_word_sublist (all : Declarations) (d : Declaration) :
    (all.dependencies d .word).Sublist (all.dependencies d .substring) := by
  rw [dependencies_eq_filter, dependencies_eq_filter]
  apply List.monotone_filter_right
  intro name h
  rw [Bool.and_eq_true] at h ⊢
  exact ⟨h.1, references_substring_of_word h.2⟩

lemma mem_dependencies_word_iff (hs : name ∈ all.dependencies d .substring)
    (hi : ∀ c ∈ name, isIdentifierChar c = true) :
    name ∈ all.dependencies d .word ↔ StandsAlone name d.rawText := by
  obtain ⟨hdeclared, hne, href⟩ := mem_dependencies.mp hs
  obtain ⟨hn, -⟩ := references_substring_iff.mp href
  rw [mem_dependencies]
  constructor
  · rintro ⟨-, -, hword⟩
    exact (standsAlone_of_references hword).2
  · intro halone
    exact ⟨hdeclared, hne, halone.references hn hi⟩

lemma mem_dependencies_substring_of_infix (hs : name ∈ all.dependencies d .substring)
    (hdeclared : ∃ other ∈ all.lookedUp, other.name = inner) (hn : inner ≠ []) (hne : inner ≠ d.name)
    (hinner : inner <:+: name) : inner ∈ all.dependencies d .substring := by
  obtain ⟨-, -, href⟩ := mem_dependencies.mp hs
  obtain ⟨-, hname⟩ := references_substring_iff.mp href
  exact mem_dependencies.mpr ⟨hdeclared, hne, references_substring_iff.mpr ⟨hn, hinner.trans hname⟩⟩

theorem modes_differ_inside_words (all : Declarations) (d : Declaration) :
    (all.dependencies d .word).Sublist (all.dependencies d .substring) ∧
    (∀ name ∈ all.dependencies d .substring, (∀ c ∈ name, isIdentifierChar c = true) →
      (name ∉ all.dependencies d .word ↔ ∀ before after, d.rawText = before ++ name ++ after →
        (∃ c ∈ before.getLast?, isIdentifierChar c = true) ∨ ∃ c ∈ after.head?, isIdentifierChar c = true)) ∧
    ∀ name ∈ all.dependencies d .substring, ∀ other ∈ all.lookedUp, other.name ≠ [] → other.name ≠ d.name →
      other.name <:+: name → other.name ∈ all.dependencies d .substring := by
  refine ⟨dependencies_word_sublist all d, ?_, ?_⟩
  · intro name hs hi
    rw [mem_dependencies_word_iff hs hi, not_standsAlone_iff]
  · intro name hs other ho hn hne hinner
    exact mem_dependencies_substring_of_infix hs ⟨other, ho, rfl⟩ hn hne hinner

def person : Declaration := ⟨"Person", .typeAlias, "type Person = Identity | ununun;", false, ⟨0, 32⟩⟩

def peopled : Declarations where
  aliases := [⟨"Id", .typeAlias, "type Id = 1;", false, ⟨33, 45⟩⟩, person,
    ⟨"Identity", .typeAlias, "type Identity = 2;", false, ⟨46, 64⟩⟩]
  enums := [⟨"unun", .enum, "enum unun \x7b\x7d", false, ⟨65, 77⟩⟩]

theorem names_inside_words_mentioned :
    (peopled.dependencies person .word).Sublist (peopled.dependencies person .substring) ∧
    "unun".toList ∈ peopled.dependencies person .substring ∧ "unun".toList ∉ peopled.dependencies person .word ∧
    (∀ before after, person.rawText = before ++ "unun".toList ++ after →
      (∃ c ∈ before.getLast?, isIdentifierChar c = true) ∨ ∃ c ∈ after.head?, isIdentifierChar c = true) ∧
    "Id".toList ∈ peopled.dependencies person .substring := by
  obtain ⟨hsub, hinside, hclosed⟩ := modes_differ_inside_words peopled person
  have hs : "unun".toList ∈ peopled.dependencies person .substring := by decide +kernel
  have hw : "unun".toList ∉ peopled.dependencies person .word := by decide +kernel
  have hlonger : "Identity".toList ∈ peopled.dependencies person .substring := by decide +kernel
  have hi : ∀ c ∈ "unun".toList, isIdentifierChar c = true := List.all_eq_true.mp (by decide +kernel)
  refine ⟨hsub, hs, hw, (hinside _ hs hi).mp hw, ?_⟩
  have hinner : "Id".toList <:+: "Identity".toList := by decide
  exact hclosed _ hlonger ⟨"Id", .typeAlias, "type Id = 1;", false, ⟨33, 45⟩⟩ (by decide) (by decide) (by decide)
    hinner

end DeclSplit.Declarations
