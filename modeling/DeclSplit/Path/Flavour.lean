import DeclSplit.Path.Basic
import DeclSplit.Syntax.Dialect

/-!
What the name of a source file says about it: the dialect it is written in, and the extension of the files
split out of it, which keeps the module flavour.
-/

namespace DeclSplit.Path

def namesDefinitions (path : Path) : Bool :=
  match path.fileName? with
  | none => false
  | some name => (((Text.pieces (.char '.') name).reverse.drop 1).take 2).contains "d"

def stemNamesDefinitions (path : Path) : Bool :=
  path.stem?.any fun stem => (Text.os ".d".toList).isSuffixOf stem

def spelledExtension? (path : Path) : Option String :=
  (path.extension?.bind OsText.text?).map String.ofList

def dialect (path : Path) : Dialect :=
  match path.spelledExtension? with
  | some "js" | some "mjs" => ⟨false, false, true, false⟩
  | some "cjs" => ⟨false, false, false, false⟩
  | some "jsx" => ⟨false, true, true, false⟩
  | some "tsx" => ⟨true, true, true, false⟩
  | some "ts" => ⟨true, false, true, path.namesDefinitions⟩
  | some "mts" => ⟨true, false, true, path.stemNamesDefinitions⟩
  | some "cts" => ⟨true, false, false, path.stemNamesDefinitions⟩
  | _ => Dialect.plain

def outputExtension (path : Path) : Text :=
  match path.spelledExtension? with
  | some "mts" => "mts"
  | some "cts" => "cts"
  | _ => "ts"

end DeclSplit.Path
