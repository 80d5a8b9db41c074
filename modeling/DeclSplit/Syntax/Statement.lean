import DeclSplit.Syntax.Token
import DeclSplit.Text.Span

/-!
What is kept of a top-level statement: where it stands, and which type alias, enum or interface it declares,
if any, and how.  A declaration behind words that export it has a place of its own.
-/

namespace DeclSplit

inductive Introduced where
  | typeAlias (name : Token)
  | enum (name : Token)
  | interface (name : Token)
  | other
deriving DecidableEq, Repr

structure InnerDeclaration where
  span : Span
  declared : Introduced
deriving DecidableEq, Repr

inductive StatementForm where
  | bare (declared : Introduced)
  -- A list of names that are exported has no declaration.
  | exported (inner : Option InnerDeclaration)
  | exportedDefault (inner : InnerDeclaration)
  | other
deriving DecidableEq, Repr

structure Statement where
  span : Span
  form : StatementForm
deriving DecidableEq, Repr

end DeclSplit
