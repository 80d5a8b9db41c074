import DeclSplit.Syntax.Classes
import DeclSplit.Syntax.Markup

/-!
Expressions, from operands to assignments.
-/

namespace DeclSplit.Expressions

open DeclSplit.Parser

variable (g : Grammar)

def objectMember : Parser Unit := do
  if ← eatMark .dot3 then
    let _ ← g.assignmentIn
    return
  let modifiers ← memberModifiers false false
  allowOnly [.async] modifiers .modifierHere
  if ← either (eatModifier .get) (eatModifier .set) then
    Parameters.propertyName g
    Functions.rest g ⟨false, false⟩
    return
  let isGenerator ← eatMark .star
  let named := (← kind).isIdentifier
  Parameters.propertyName g
  if isGenerator || (← atMark .lParen) || (← atMark .lAngle) then
    Functions.rest g ⟨modifiers.contains .async, isGenerator⟩
  else if named && !(← atMark .colon) then
    discard (Parameters.initializer g)
  else
    expectMark .colon
    discard g.assignmentIn

def object : Parser Unit := do
  expectMark .lCurly
  let _ ← commaList .rCurly (objectMember g)
  expectMark .rCurly

def spreadable : Parser Unit := do
  let _ ← eatMark .dot3
  discard g.assignmentIn

def array : Parser Unit := do
  expectMark .lBrack
  let _ ← commaList .rBrack do
    unless ← atMark .comma do spreadable g
  expectMark .rBrack

def callArguments : Parser Unit := do
  expectMark .lParen
  let _ ← commaList .rParen (spreadable g)
  expectMark .rParen

def group : Parser ExprShape := do
  advance
  if ← atMark .rParen then
    advance
    failWith .emptyGroup
    return .other
  let list ← inContext (fun c => { c with allowIn := true, inDecorator := false }) <|
    commaList .rParen g.assignment
  if list.trailing then
    failWith (.expected ")" ",")
  expectMark .rParen
  match list.first, list.more with
  | some shape, false => return .grouped shape
  | _, _ => return .grouped .other

def identifier : Parser ExprShape := do
  if (← kind).isIdentifier then
    advanceName
    return .name
  unexpected
  return .other

def template : Parser Unit := do
  match ← kind with
  | .template .head => Types.templateHoles (discard g.expressionIn)
  | _ => advance

def importExpression : Parser Unit := do
  advance
  if ← eatMark .dot then
    match ← kind with
    | .keyword .meta_ => advance
    | .keyword .source | .keyword .defer =>
      advance
      callArguments g
    | _ => unexpected
  else if ← atMark .lParen then callArguments g
  else unexpected

def memberRest (optionalChain : Bool) (first : ExprShape) : Parser (ExprShape × Bool) := do
  let rec rounds : Nat → ExprShape → Bool → Parser (ExprShape × Bool)
    | 0, shape, chained => pure (shape, chained)
    | n + 1, shape, chained => do
      if ← failed then return (shape, chained)
      match ← kind with
      | .punctuator .dot =>
        advance
        if ← atKind .privateName then advance else wordName
        rounds n shape.property chained
      | .punctuator .questionDot =>
        unless optionalChain do return (shape, chained)
        let next ← lookAhead do
          advance
          kind
        match next with
        | .punctuator .lBrack =>
          advance
          advance
          let _ ← g.expressionIn
          expectMark .rBrack
          rounds n .other true
        | .template .whole | .template .head =>
          advance
          template g
          rounds n .other true
        | .privateName =>
          advance
          advance
          rounds n .other true
        | _ =>
          unless next.isWord do return (shape, chained)
          advance
          wordName
          rounds n .other true
      | .punctuator .lBrack =>
        if (← context).inDecorator then return (shape, chained)
        advance
        let _ ← g.expressionIn
        expectMark .rBrack
        rounds n .other chained
      | .template .whole | .template .head =>
        template g
        rounds n .other chained
      | .punctuator .bang =>
        if !(← typed) || (← onNewLine) then return (shape, chained)
        advance
        rounds n .other chained
      | .punctuator .lAngle | .punctuator .shl =>
        match ← attempt typeArguments with
        | some true => rounds n (.instantiated shape) chained
        | _ => return (shape, chained)
      | _ => return (shape, chained)
  let start ← cursor
  rounds (start.size - start.offset + 4) first false
where
  typeArguments : Parser Bool := do
    unless ← typed do return false
    if ← atMark .shl then reread Lexeme.readOpenAngle
    unless ← atMark .lAngle do return false
    advance
    let list ← commaList .rAngle (discard g.type)
    if ← atMark .rAngle then
      let longer ← lookAhead do
        reread Lexeme.readAngle
        atMark .gtEq
      if longer then unexpected
    expectMark .rAngle
    if list.first.isNone then report .emptyTypeArguments
    unless ← canFollowTypeArguments do unexpected
    return true
  canFollowTypeArguments : Parser Bool := do
    let here ← kind
    match here with
    | .punctuator .lParen | .template .whole | .template .head => return true
    | .punctuator .lAngle | .punctuator .rAngle | .punctuator .plus | .punctuator .minus => return false
    | _ => return (← onNewLine) || isOperator here || !startsExpression here
  isOperator : TokenKind → Bool
    | .keyword .as | .keyword .satisfies | .keyword .in_ | .keyword .instanceof => true
    | .punctuator mark => [Punctuator.question2, .pipe2, .amp2, .pipe, .caret, .amp, .eq2, .notEq, .eq3,
        .notEq2, .lAngle, .rAngle, .ltEq, .gtEq, .shl, .shr, .shr3, .plus, .minus, .star, .slash,
        .percent, .star2].contains mark
    | _ => false
  startsExpression : TokenKind → Bool
    | .name | .text | .numeral _ | .template .whole | .template .head | .privateName => true
    | .keyword word => !word.isReserved || [Keyword.this_, .super, .null, .true_, .false_, .function,
        .class_, .new, .import_, .delete, .typeof, .void].contains word
    | .punctuator mark => [Punctuator.lParen, .lBrack, .lCurly, .slash, .slashEq, .plus, .minus, .tilde,
        .bang, .plus2, .minus2, .lAngle, .at].contains mark
    | _ => false

def newExpression (operand : Parser ExprShape) : Parser Unit := do
  advance
  if ← eatMark .dot then
    if ← atWord .target then advance else unexpected
    return
  let (_, _) ← memberRest g false (← operand)
  if ← atMark .lParen then callArguments g

def operand : (depth : Nat) → Parser ExprShape
  | 0 => do
    unexpected
    return .other
  | depth + 1 => do
    match ← kind with
    | .name => identifier
    | .text =>
      advance
      return .text
    | .numeral _ =>
      advance
      return .numeral
    | .template .whole =>
      advance
      return .plainTemplate
    | .template .head =>
      template g
      return .other
    | .keyword word =>
      match word with
      | .this_ =>
        advance
        return .qualified
      | .super | .null | .true_ | .false_ =>
        advance
        return .other
      | .function =>
        Functions.named g false
        return .other
      | .class_ =>
        Classes.class_ g
        return .other
      | .new =>
        newExpression g (operand depth)
        return .other
      | .import_ =>
        importExpression g
        return .other
      | .async =>
        if ← Functions.isAsyncFunction then
          advance
          Functions.named g true
          return .other
        identifier
      | _ => identifier
    | .punctuator mark =>
      match mark with
      | .lBrack =>
        array g
        return .other
      | .lCurly =>
        object g
        return .other
      | .lParen => group g
      | .slash | .slashEq =>
        reread Lexeme.readPattern
        if ← atKind .pattern then advance else unexpected
        return .other
      | .at =>
        Parameters.decorators g
        if ← atWord .class_ then Classes.class_ g else unexpected
        return .other
      | .lAngle =>
        if (← dialect).markup then g .markup else unexpected
        return .other
      | _ =>
        unexpected
        return .other
    | _ =>
      unexpected
      return .other

def leftHand : Parser ExprShape := do
  let start ← cursor
  let bound := start.size - start.offset + 4
  let first ← operand g bound
  let (shape, chained) ← memberRest g true first
  let rec calls : Nat → ExprShape → Bool → Parser ExprShape
    | 0, shape, _ => pure shape
    | n + 1, shape, chained => do
      if ← failed then return shape
      if ← eatMark .questionDot then
        if (← atMark .lAngle) || (← atMark .shl) then
          let _ ← memberRest.typeArguments g
        callArguments g
        let (_, _) ← memberRest g true .other
        calls n .other true
      else if ← atMark .lParen then
        callArguments g
        let (_, _) ← memberRest g true .other
        calls n .other chained
      else return if chained then .other else shape
  calls bound shape chained

def isPrefixOperator : TokenKind → Bool
  | .keyword .delete | .keyword .typeof | .keyword .void => true
  | .punctuator mark => [Punctuator.plus, .minus, .tilde, .bang].contains mark
  | _ => false

def isUpdate : TokenKind → Bool
  | .punctuator .plus2 | .punctuator .minus2 => true
  | _ => false

def update : Parser ExprShape := do
  if isUpdate (← kind) then
    advance
    let _ ← g .unary
    return .other
  let shape ← g .leftHand
  if isUpdate (← kind) && !(← onNewLine) then
    advance
    return .other
  return shape

def isAwait : Parser Bool := do
  unless ← atWord .await do return false
  if (← context).inAsync then return true
  lookAhead do
    advance
    let next ← kind
    return !(← onNewLine) && (next.isWord || next.isNumeral || next == .text)

def simpleUnary : Parser ExprShape := do
  let here ← kind
  if isPrefixOperator here then
    advance
    let _ ← g .simpleUnary
    return .other
  if here == .punctuator .lAngle && !(← dialect).markup then
    if ← typed then
      advance
      let _ ← g.type
      expectMark .rAngle
      let _ ← g .simpleUnary
    else unexpected
    return .other
  if ← isAwait then
    unless (← context).inAsync do report .strayAwait
    advance
    let _ ← inContext (fun c => { c with inAsync := true }) (g .simpleUnary)
    return .other
  update g

def precedence? : TokenKind → Option Precedence
  | .keyword .in_ | .keyword .instanceof | .keyword .as | .keyword .satisfies => some .relation
  | .punctuator mark =>
    match mark with
    | .question2 => some .coalesce
    | .pipe2 => some .or
    | .amp2 => some .and
    | .pipe => some .bitOr
    | .caret => some .bitXor
    | .amp => some .bitAnd
    | .eq2 | .notEq | .eq3 | .notEq2 => some .equality
    | .lAngle | .rAngle | .ltEq | .gtEq => some .relation
    | .shl | .shr | .shr3 => some .shift
    | .plus | .minus => some .sum
    | .star | .slash | .percent => some .product
    | .star2 => some .power
    | _ => none
  | _ => none

def bindsTighter (operator above : Precedence) : Bool :=
  if operator == .power then above.rank ≤ operator.rank else above.rank < operator.rank

def operators (above : Precedence) (first : ExprShape) : Parser ExprShape := do
  let rec rounds : Nat → ExprShape → Parser ExprShape
    | 0, shape => pure shape
    | n + 1, shape => do
      if ← atMark .rAngle then reread Lexeme.readAngle
      let here ← kind
      let some operator := precedence? here | return shape
      unless bindsTighter operator above do return shape
      if here == .keyword .in_ && !(← context).allowIn then return shape
      if here == .keyword .as || here == .keyword .satisfies then
        if !(← typed) || (← onNewLine) then return shape
        advance
        let _ ← g.type
        rounds n .other
      else
        advance
        let _ ← g (.binary operator)
        rounds n .other
  let start ← cursor
  rounds (start.size - start.offset + 4) first

def binary (above : Precedence) : Parser ExprShape := do
  if (← context).allowIn && (← atKind .privateName) then
    advance
    expectWord .in_
    let _ ← g (.binary .none)
    operators g above .other
  else
    operators g above (← simpleUnary g)

def isYield : Parser Bool := do
  unless ← atWord .yield do return false
  if (← context).inGenerator then return true
  lookAhead do
    advance
    let next ← kind
    return !(← onNewLine) && (next.isWord || next.isNumeral || next == .text)

def yield : Parser Unit := do
  advance
  unless ← onNewLine do
    if ← eatMark .star then discard g.assignment
    else
      match ← kind with
      | .punctuator .rParen | .punctuator .rBrack | .punctuator .rCurly | .punctuator .comma
      | .punctuator .colon | .punctuator .semicolon | .keyword .in_ | .finish | .template .middle
      | .template .tail => pure ()
      | _ => discard g.assignment

def isAssignment : TokenKind → Bool
  | .punctuator mark => [Punctuator.eq, .plusEq, .minusEq, .starEq, .slashEq, .percentEq, .star2Eq, .shlEq,
      .shrEq, .shr3Eq, .ampEq, .pipeEq, .caretEq, .amp2Eq, .pipe2Eq, .question2Eq].contains mark
  | _ => false

def assignment (returnType : Bool) : Parser ExprShape := do
  if ← isYield then
    yield g
    return .other
  if ← Functions.arrowInParentheses g returnType then return .other
  if ← Functions.asyncArrow g returnType then return .other
  let shape ← binary g .none
  let here ← kind
  if here == .punctuator .arrow && shape == .name then
    Functions.arrowFromName g false returnType
    return .other
  if isAssignment here then
    advance
    let _ ← g (.assignment returnType)
    return .other
  if ← eatMark .question then
    let _ ← inContext (fun c => { c with allowIn := true }) (g (.assignment false))
    expectMark .colon
    let _ ← g (.assignment returnType)
    return .other
  return shape

end DeclSplit.Expressions
