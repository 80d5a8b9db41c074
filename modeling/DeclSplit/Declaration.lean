import DeclSplit.Text.Basic
import DeclSplit.Syntax.Statement

/-!
Declarations: the type aliases, enums and interfaces at the top of a source file.
-/

namespace DeclSplit

inductive DeclarationKind where
  | typeAlias | enum | interface
deriving DecidableEq, Repr

namespace DeclarationKind

def word : DeclarationKind → String
  | typeAlias => "type"
  | enum => "enum"
  | interface => "interface"

end DeclarationKind

structure Declaration where
  name : Text
  kind : DeclarationKind
  rawText : Text
  isExported : Bool
  span : Span
deriving DecidableEq, Repr

end DeclSplit
