import DeclSplit.Files.Access
import Mathlib.Tactic.Lemma

/-! Actions run on a tree: each asks the tree, and only two of them leave another tree behind. -/

namespace DeclSplit.FileTree

variable {α β : Type} (tree : FileTree) (path : Path)

@[simp] lemma run_pure (a : α) : (pure a : Action α) tree = (a, tree) := rfl

@[simp] lemma run_bind (first : Action α) (next : α → Action β) :
    (first >>= next) tree = next (first tree).1 (first tree).2 := rfl

@[simp] lemma run_exists_ : (FileAccess.exists_ path : Action _) tree = (tree.exists_ path, tree) := rfl

@[simp] lemma run_readText : (FileAccess.readText path : Action _) tree = (tree.readText path, tree) := rfl

@[simp] lemma run_fileNames : (FileAccess.fileNames path : Action _) tree = (tree.fileNames path, tree) := rfl

@[simp] lemma run_makeDirectories :
    (FileAccess.makeDirectories path : Action _) tree = tree.makeDirectories path := rfl

lemma run_writeText_of_ok {tree later : FileTree} {path : Path} {chars : Text}
    (h : tree.write path (.text chars) = .ok later) :
    (FileAccess.writeText path chars : Action _) tree = (.ok (), later) := by
  change attempt (·.write path (.text chars)) tree = _
  rw [attempt, h]

lemma run_writeText_of_error {tree : FileTree} {path : Path} {chars : Text} {e : FileError}
    (h : tree.write path (.text chars) = .error e) :
    (FileAccess.writeText path chars : Action _) tree = (.error e, tree) := by
  change attempt (·.write path (.text chars)) tree = _
  rw [attempt, h]

end DeclSplit.FileTree
