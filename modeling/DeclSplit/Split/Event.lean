import DeclSplit.Declaration
import DeclSplit.Path.Basic
import DeclSplit.Split.Error

/-!
What happens while a source is split, in order, and how it ends.
-/

namespace DeclSplit

inductive SplitEvent where
  | diagnostic (path : Path) (fault : Diagnostic)
  | found (count : Nat)
  | directory (dir : Path) (created : Bool)
  | wrote (declaration : Declaration) (path : Path) (imports : Nat)
deriving DecidableEq, Repr

structure Outcome (α : Type) where
  events : List SplitEvent
  result : Except SplitError α

end DeclSplit
