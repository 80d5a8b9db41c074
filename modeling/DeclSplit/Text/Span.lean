/-!
Stretches of a text.
-/

namespace DeclSplit

structure Span where
  start : Nat
  stop : Nat
deriving DecidableEq, Repr

end DeclSplit
