import DeclSplit.Files.Operations

/-!
What the program asks of the files around it, and how a file tree answers.
-/

namespace DeclSplit

class FileAccess (m : Type → Type) where
  exists_ : Path → m Bool
  readText : Path → m (Except FileError Text)
  makeDirectories : Path → m (Except FileError Unit)
  writeText : Path → Text → m (Except FileError Unit)
  fileNames : Path → m (Except FileError (List OsText))

namespace FileTree

abbrev Action := StateM FileTree

def attempt (operation : FileTree → Except FileError FileTree) : Action (Except FileError Unit) := fun tree =>
  match operation tree with
  | .ok changed => (.ok (), changed)
  | .error e => (.error e, tree)

instance : FileAccess Action where
  exists_ path := fun tree => (tree.exists_ path, tree)
  readText path := fun tree => (tree.readText path, tree)
  makeDirectories path := fun tree => tree.makeDirectories path
  writeText path chars := attempt (·.write path (.text chars))
  fileNames path := fun tree => (tree.fileNames path, tree)

end FileTree

end DeclSplit
