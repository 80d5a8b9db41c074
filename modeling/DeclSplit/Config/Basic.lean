import DeclSplit.Reference

/-!
Configuration: what a project may set in place of options.
-/

namespace DeclSplit

structure Config where
  output : Option Text := none
  overwrite : Option Bool := none
  mode : Option MatchMode := none
  extension : Option Text := none
deriving DecidableEq, Repr

end DeclSplit
