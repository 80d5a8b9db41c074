import DeclSplit.Files.Tree
import Mathlib.Data.List.Induction
import Mathlib.Tactic.Lemma

/-! Putting files in their places: what is put last in a place hides what was put there before, so putting the
same files again changes nothing. -/

namespace DeclSplit.FileTree

variable {tree : FileTree} {location other : Location}

section Replacing

variable {entries : List (Location × Entry)} {entry changed : Entry}

lemma lookup_replace_isSome (h : (lookup location entries).isSome) (entry : Entry) :
    (lookup location (replace other entry entries)).isSome := by
  by_cases ho : location = other
  · rw [ho, lookup_replace]
    rfl
  · rwa [lookup_replace_of_ne ho]

lemma replace_replace (location : Location) (entry changed : Entry) (entries : List (Location × Entry)) :
    replace location changed (replace location entry entries) = replace location changed entries := by
  induction entries with
  | nil => simp [replace]
  | cons first entries ih => by_cases h : first.1 = location <;> simp [replace, h, ih]

lemma replace_comm (ne : other ≠ location) (there : (lookup other entries).isSome) (entry changed : Entry) :
    replace other changed (replace location entry entries) =
      replace location entry (replace other changed entries) := by
  induction entries with
  | nil => cases there
  | cons first entries ih =>
    obtain ⟨place, old⟩ := first
    by_cases ho : place = other
    · subst ho
      simp [replace, ne]
    · by_cases hl : place = location
      · subst hl
        simp [replace, ho]
      · rw [lookup, if_neg ho] at there
        simp [replace, ho, hl, ih there]

end Replacing

def putAll (tree : FileTree) (puts : List (Location × Contents)) : FileTree :=
  puts.foldl (fun tree put => tree.put put.1 (.file put.2)) tree

def Taken (tree : FileTree) (location : Location) : Prop := (lookup location tree.entries).isSome

lemma Taken.put (h : tree.Taken location) (other : Location) (entry : Entry) :
    (tree.put other entry).Taken location := lookup_replace_isSome h entry

lemma taken_put (tree : FileTree) (location : Location) (entry : Entry) :
    (tree.put location entry).Taken location := by
  rw [Taken, FileTree.put, lookup_replace]
  rfl

lemma Taken.putAll {puts : List (Location × Contents)} (h : tree.Taken location) :
    (tree.putAll puts).Taken location := by
  induction puts generalizing tree with
  | nil => exact h
  | cons put puts ih => exact ih (h.put _ _)

lemma taken_putAll {puts : List (Location × Contents)} {put : Location × Contents} (h : put ∈ puts) :
    (tree.putAll puts).Taken put.1 := by
  induction puts generalizing tree with
  | nil => cases h
  | cons first puts ih =>
    rcases List.mem_cons.mp h with rfl | h
    · exact (taken_put tree _ _).putAll
    · exact ih h

lemma put_putAll {puts : List (Location × Contents)} (h : ∀ put ∈ puts, tree.Taken put.1)
    (location : Location) (entry : Entry) :
    ((tree.put location entry).putAll puts).put location entry = (tree.putAll puts).put location entry := by
  induction puts generalizing tree with
  | nil => exact congrArg FileTree.mk (replace_replace ..)
  | cons put puts ih =>
    have hrest : ∀ other ∈ puts, (tree.put put.1 (.file put.2)).Taken other.1 := fun other ho =>
      (h other (List.mem_cons_of_mem _ ho)).put _ _
    -- The first put hides the entry, or can change places with it.
    have hfirst : (tree.put location entry).put put.1 (.file put.2) =
        if put.1 = location then tree.put put.1 (.file put.2)
        else (tree.put put.1 (.file put.2)).put location entry := by
      split
      · rename_i he
        subst he
        exact congrArg FileTree.mk (replace_replace ..)
      · rename_i he
        exact congrArg FileTree.mk (replace_comm he (h put List.mem_cons_self) _ _)
    change ((((tree.put location entry).put put.1 (.file put.2)).putAll puts).put location entry) =
      ((tree.put put.1 (.file put.2)).putAll puts).put location entry
    rw [hfirst]
    split
    · rfl
    · exact ih hrest

theorem putAll_putAll (tree : FileTree) (puts : List (Location × Contents)) :
    (tree.putAll puts).putAll puts = tree.putAll puts := by
  induction puts using List.reverseRecOn with
  | nil => rfl
  | append_singleton puts put ih =>
    have happend : ∀ tree : FileTree, tree.putAll (puts ++ [put]) = (tree.putAll puts).put put.1 (.file put.2) :=
      fun tree => by simp [putAll]
    rw [happend, happend, put_putAll (fun other ho => taken_putAll ho), ih]

end DeclSplit.FileTree
