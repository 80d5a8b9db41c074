import DeclSplit.Declarations
import DeclSplit.Reference

/-!
Dependencies: the names among all declarations that a declaration mentions.
-/

namespace DeclSplit

def Declarations.dependencies (all : Declarations) (d : Declaration) (mode : MatchMode) : List Text :=
  ((all.lookedUp.map Declaration.name).filter fun name =>
    name ≠ d.name && Text.references d.rawText name mode).eraseDups

end DeclSplit
