import DeclSplit.Syntax.Statements

/-!
Programs: the statements of a source text, with what is wrong with it.  Nesting is followed as deep as the
text is long, which no construction exceeds, since each one has at least a character of its own.
-/

namespace DeclSplit

open DeclSplit.Parser

def Grammar.layer (g : Grammar) : Grammar
  | .type => Types.type g
  | .typeOperator => Types.typeOperator g
  | .primaryType => Types.primaryType g
  | .assignment returnType => Expressions.assignment g returnType
  | .binary above => Expressions.binary g above
  | .unary => Expressions.simpleUnary g
  | .simpleUnary => Expressions.simpleUnary g
  | .leftHand => Expressions.leftHand g
  | .binding => Parameters.binding g
  | .statement single => discard (Statements.statement g single)
  | .markup => Markup.markup g

def Grammar.nested : Nat → Grammar
  | 0, _ => do
    unexpected
    return default
  | depth + 1, goal => Grammar.layer (Grammar.nested depth) goal

structure Program where
  statements : List Statement
  readable : Bool
  diagnostics : List Diagnostic
deriving Repr

namespace Program

def located (g : Grammar) : Parser Statement := do
  let start ← position
  let form ← Statements.statement g false
  let stop ← lastEnd
  return ⟨⟨start, stop⟩, form⟩

def statementList (g : Grammar) : Parser (List Statement) :=
  collect do
    if ← exhausted then return none
    return some (← located g)

def topContext (dialect : Dialect) : Context where
  allowIn := true
  inGenerator := false
  inAsync := dialect.isModule
  inFunction := false
  inDecorator := false
  ambient := dialect.ambient
  noConditionalTypes := false

/-- All faults in the order in which they are told: those of reading characters first.  The fault that made
it impossible to read on is left out where the text ended or broke off anyway and that has been told. -/
def faults (c : Cursor) : List Diagnostic :=
  match c.fatal with
  | none => c.lexical.reverse ++ c.syntactic.reverse
  | some (fault, before) =>
    let told := !c.lexical.isEmpty && c.token.kind.isExhausted
    c.lexical.reverse ++ c.syntactic.reverse.take before ++ if told then [] else [fault]

def parse (dialect : Dialect) (source : List Char) : Program :=
  let start := (Cursor.atStart dialect (topContext dialect) source).first
  let reply := statementList (Grammar.nested (16 * start.size + 64)) start
  match reply.next.fatal with
  | none => ⟨reply.value, true, faults reply.next⟩
  | some _ => ⟨[], false, faults reply.next⟩

end Program

end DeclSplit
