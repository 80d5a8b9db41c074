import DeclSplit.Declarations
import DeclSplit.Syntax.Program
import DeclSplit.Text.Bytes

/-!
Classification: which statements declare a type alias, an enum or an interface.  Only the shape of the
statement counts, never what the declared types mean.
-/

namespace DeclSplit

namespace Introduced

def named? : Introduced → Option (DeclarationKind × Text)
  | typeAlias name => some (.typeAlias, name.name)
  | enum name => some (.enum, name.name)
  | interface name => some (.interface, name.name)
  | other => none

end Introduced

namespace StatementForm

def introduced? : StatementForm → Option ((DeclarationKind × Text) × Bool)
  | bare declared => declared.named?.map (·, false)
  | exported (some inner) => inner.declared.named?.map (·, true)
  | exported none => none
  | exportedDefault inner =>
    match inner.declared with
    | .interface name => some ((.interface, name.name), true)
    | _ => none
  | other => none

end StatementForm

namespace Statement

def declaration? (source : Text) (s : Statement) : Option Declaration :=
  s.form.introduced?.map fun ((kind, name), isExported) =>
    ⟨name, kind, Text.slice source s.span.start s.span.stop, isExported, s.span⟩

end Statement

namespace Program

def declarationList (source : Text) (p : Program) : List Declaration :=
  p.statements.filterMap (Statement.declaration? source)

def declarations (source : Text) (p : Program) : Declarations :=
  Declarations.ofList (p.declarationList source)

end Program

end DeclSplit
