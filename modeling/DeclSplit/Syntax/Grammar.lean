import DeclSplit.Syntax.Parser

/-!
The constructions that contain one another without end.  `Goal` lists them, `Goal.Result` says what is
kept of each once it has been read, and a `Grammar` reads every one of them.  The modules on types,
expressions, classes and so on read a construction with a given grammar for the constructions inside it;
`Program` ties the knot, one layer for each level of nesting.
-/

namespace DeclSplit

inductive TypeShape where
  | arrayOrTuple | other
deriving DecidableEq, Repr

inductive ExprShape where
  | name
  | qualified
  | grouped (inner : ExprShape)
  | instantiated (inner : ExprShape)
  | text
  | plainTemplate
  | numeral
  | other
deriving DecidableEq, Repr

namespace ExprShape

def isEntityName : ExprShape → Bool
  | name | qualified => true
  | grouped inner => inner.isEntityName
  | _ => false

def property (object : ExprShape) : ExprShape := if object.isEntityName then .qualified else .other

end ExprShape

inductive BindingShape where
  | name | pattern
deriving DecidableEq, Repr

inductive Precedence where
  | none | coalesce | or | and | bitOr | bitXor | bitAnd | equality | relation | shift | sum | product
  | power
deriving DecidableEq, Repr

namespace Precedence

def rank : Precedence → Nat
  | none => 0
  | coalesce => 1
  | or => 2
  | and => 3
  | bitOr => 4
  | bitXor => 5
  | bitAnd => 6
  | equality => 7
  | relation => 8
  | shift => 9
  | sum => 10
  | product => 11
  | power => 12

end Precedence

inductive Goal where
  | type
  | typeOperator
  | primaryType
  | assignment (returnType : Bool)
  | binary (above : Precedence)
  | unary
  | simpleUnary
  | leftHand
  | binding
  | statement (single : Bool)
  | markup
deriving DecidableEq, Repr

@[reducible] def Goal.Result : Goal → Type
  | .type | .typeOperator => TypeShape
  | .primaryType => TypeShape
  | .assignment _ | .binary _ | .unary | .simpleUnary | .leftHand => ExprShape
  | .binding => BindingShape
  | .statement _ | .markup => Unit

instance (goal : Goal) : Inhabited goal.Result :=
  match goal with
  | .type | .typeOperator | .primaryType => ⟨TypeShape.other⟩
  | .assignment _ | .binary _ | .unary | .simpleUnary | .leftHand => ⟨ExprShape.other⟩
  | .binding => ⟨BindingShape.name⟩
  | .statement _ | .markup => ⟨()⟩

abbrev Grammar := (goal : Goal) → Parser goal.Result

namespace Grammar

variable (g : Grammar)

def type : Parser TypeShape := g .type

def assignment : Parser ExprShape := g (.assignment true)

def assignmentIn : Parser ExprShape :=
  Parser.inContext (fun c => { c with allowIn := true }) g.assignment

def expression : Parser ExprShape := do
  let first ← g.assignment
  unless ← Parser.atMark .comma do return first
  Parser.repeatWhile do
    unless ← Parser.eatMark .comma do return false
    let _ ← g.assignment
    return true
  return .other

def expressionIn : Parser ExprShape :=
  Parser.inContext (fun c => { c with allowIn := true }) g.expression

def condition : Parser Unit := do
  Parser.expectMark .lParen
  let _ ← g.expressionIn
  Parser.expectMark .rParen

def statement (single : Bool) : Parser Unit := g (.statement single)

def stringLiteral : Parser Unit := do
  if ← Parser.atKind .text then Parser.advance else Parser.unexpected

end Grammar

namespace Parser

def wordName : Parser Unit := do
  if (← kind).isWord then advanceName else unexpected

def bindingName : Parser Token := do
  let t ← token
  if t.kind.isIdentifier then
    advanceName
  else
    match t.kind with
    | .keyword word => failWith (.reservedName word.spelling)
    | _ => unexpected
  return t

end Parser

end DeclSplit
