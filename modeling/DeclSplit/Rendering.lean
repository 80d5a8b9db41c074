import DeclSplit.Dependencies

/-!
The contents of the file that a declaration goes to: an import for each dependency, then the declaration as it
stands in the source, with an export in front unless it has one.  Enums depend on nothing.
-/

namespace DeclSplit

def ensureExported (raw : Text) (isExported : Bool) : Text :=
  if isExported then raw else "export " ++ raw

def importLine (name : Text) : Text := "import \x7b " ++ name ++ " \x7d from './" ++ name ++ "';\n"

theorem importLine_eq (name : Text) : importLine name =
    "import \x7b ".toList ++ (name ++ (" \x7d from './".toList ++ (name ++ "';\n".toList))) := by
  unfold importLine
  simp only [List.append_assoc]

theorem importLine_ne_nil (name : Text) : importLine name ≠ [] := by
  rw [importLine_eq]
  simp

def importBlock (names : List Text) : Text := names.flatMap importLine

theorem importBlock_cons (name : Text) (names : List Text) :
    importBlock (name :: names) = importLine name ++ importBlock names := List.flatMap_cons

theorem importBlock_append (names others : List Text) :
    importBlock (names ++ others) = importBlock names ++ importBlock others := List.flatMap_append

structure Rendering where
  contents : Text
  imports : Nat
deriving DecidableEq, Repr

namespace Declaration

def body (d : Declaration) : Text := ensureExported d.rawText d.isExported

def imports (d : Declaration) (all : Declarations) (mode : MatchMode) : List Text :=
  match d.kind with
  | .enum => []
  | .typeAlias | .interface => all.dependencies d mode

def render (d : Declaration) (all : Declarations) (mode : MatchMode) : Rendering where
  contents := importBlock (d.imports all mode) ++ d.body
  imports := (d.imports all mode).length

end Declaration

end DeclSplit
