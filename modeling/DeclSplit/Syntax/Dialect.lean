/-!
The dialects a source file may be written in.  They differ in whether type syntax exists, in whether a
leading angle opens markup, in whether the file is a module, and in whether it only declares.
-/

namespace DeclSplit

structure Dialect where
  typed : Bool
  markup : Bool
  isModule : Bool
  ambient : Bool
deriving DecidableEq, Repr

namespace Dialect

def plain : Dialect := ⟨true, false, true, false⟩

end Dialect

end DeclSplit
