import DeclSplit.Files.Access

/-!
Conflicts: the files in an output directory that a split could replace.
-/

namespace DeclSplit

namespace Text

def insertSorted (text : Text) : List Text → List Text
  | [] => [text]
  | other :: rest => if other < text then other :: insertSorted text rest else text :: other :: rest

def sort (texts : List Text) : List Text := texts.foldr insertSorted []

end Text

def extensionSuffix (extension : Text) : Text := '.' :: extension.dropWhile (· = '.')

def existingOutputs {m : Type → Type} [Monad m] [FileAccess m] (dir : Path) (extension : Text) :
    m (Except FileError (List Text)) := do
  if ← FileAccess.exists_ dir then
    return (← FileAccess.fileNames dir).map fun names =>
      Text.sort ((names.map OsText.shown).filter ((extensionSuffix extension).isSuffixOf ·))
  else return .ok []

end DeclSplit
