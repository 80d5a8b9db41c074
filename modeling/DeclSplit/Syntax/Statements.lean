import DeclSplit.Syntax.Modules

/-!
Statements.
-/

namespace DeclSplit.Statements

open DeclSplit.Parser

variable (g : Grammar)

def block : Parser Unit := do
  expectMark .lCurly
  Functions.statements g
  expectMark .rCurly

def expressionStatement : Parser Unit := do
  let shape ← g.expression
  if shape == .name && (← atMark .colon) then
    advance
    g.statement true
  else endStatement

def ifStatement : Parser Unit := do
  advance
  g.condition
  g.statement true
  if ← eatWord .else_ then g.statement true

def doStatement : Parser Unit := do
  advance
  g.statement true
  expectWord .while
  g.condition
  skipMark .semicolon

def whileStatement : Parser Unit := do
  advance
  g.condition
  g.statement true

def countingLoop : Parser Unit := do
  expectMark .semicolon
  unless (← atMark .semicolon) || (← atMark .rParen) do discard g.expressionIn
  expectMark .semicolon
  unless ← atMark .rParen do discard g.expressionIn
  expectMark .rParen
  g.statement true

def collectionLoop : Parser Unit := do
  if ← eatWord .in_ then discard g.expressionIn
  else
    expectWord .of
    discard g.assignmentIn
  expectMark .rParen
  g.statement true

def runsThrough : Parser Bool := do
  return (← atWord .in_) || (← atWord .of)

def letBegins : Parser Bool := do
  unless ← atWord .let_ do return false
  lookAhead do
    advance
    return ((← kind).isIdentifier && !(← atWord .in_)) || (← atMark .lBrack) || (← atMark .lCurly)

def usingBegins : Parser Bool := do
  unless ← atWord .using_ do return false
  lookAhead do
    advance
    return (← kind).isIdentifier && !(← onNewLine)

def awaitUsingBegins : Parser Bool := do
  unless ← atWord .await do return false
  lookAhead do
    advance
    if (← onNewLine) || !(← atWord .using_) then return false
    advance
    return (← kind).isIdentifier && !(← onNewLine)

def forStatement : Parser Unit := do
  advance
  if ← atWord .await then
    unless (← context).inAsync do report .strayAwait
    advance
  expectMark .lParen
  if ← atMark .semicolon then
    countingLoop g
    return
  let usesLet ← letBegins
  let usesUsing ← usingBegins
  let awaitsUsing ← awaitUsingBegins
  if usesLet || usesUsing || awaitsUsing || (← atWord .var) || (← atWord .const) then
    let isConstant ← atWord .const
    if awaitsUsing then advance
    advance
    let missing ← inContext (fun c => { c with allowIn := false })
      (Declarations.variableList g ⟨isConstant, false⟩)
    if ← runsThrough then collectionLoop g
    else
      missing.forM report
      countingLoop g
    return
  let _ ← inContext (fun c => { c with allowIn := false }) g.expression
  if ← runsThrough then collectionLoop g else countingLoop g

def jump : Parser Unit := do
  advance
  unless ← canEnd do
    if (← kind).isIdentifier then advanceName else unexpected
  endStatement

def returnStatement : Parser Unit := do
  advance
  unless ← eatMark .semicolon do
    unless ← canEnd do
      let _ ← g.expressionIn
      endStatement
  unless (← context).inFunction do report .strayReturn

def throwStatement : Parser Unit := do
  advance
  let _ ← g.expression
  endStatement

def switchCase : Parser Unit := do
  unless ← eatWord .default_ do
    expectWord .case
    let _ ← g.expression
  expectMark .colon
  repeatWhile do
    match ← kind with
    | .keyword .case | .keyword .default_ | .punctuator .rCurly => return false
    | _ =>
      if ← exhausted then return false
      g.statement false
      return true

def switchStatement : Parser Unit := do
  advance
  g.condition
  enclosed .lCurly .rCurly (switchCase g)

def tryStatement : Parser Unit := do
  advance
  block g
  if ← eatWord .catch_ then
    if ← eatMark .lParen then
      let _ ← g .binding
      Parameters.typeAnnotation g
      expectMark .rParen
    block g
  if ← eatWord .finally_ then block g

def letStatement (single : Bool) : Parser Unit := do
  let next ← lookAhead do
    advance
    kind
  let operates := Expressions.isAssignment next || (Expressions.precedence? next).isSome
  if operates then
    let _ ← g.assignment
    endStatement
  else if next == .punctuator .dot || next == .punctuator .lParen then
    expressionStatement g
  else if (single && next != .punctuator .lBrack) || next == .punctuator .semicolon then
    let _ ← Expressions.identifier
    endStatement
  else Declarations.variableStatement g

def usingStatement : Parser Unit := do
  let _ ← eatWord .await
  advance
  let _ ← Declarations.variableList g ⟨false, false⟩
  endStatement

def mayDeclare : Keyword → Bool
  | .interface | .type | .module_ | .namespace_ | .declare | .enum | .private_ | .protected_ | .public_
  | .abstract_ | .accessor | .static | .readonly | .global | .async => true
  | _ => false

def decorated : Parser StatementForm := do
  Parameters.decorators g
  if ← atWord .export_ then return ← Modules.exportStatement g
  let _ ← declarationModifiers
  if ← atWord .class_ then Classes.class_ g else unexpected
  return .other

def statement (single : Bool) : Parser StatementForm := do
  match ← kind with
  | .punctuator .lCurly =>
    block g
    return .other
  | .punctuator .semicolon =>
    advance
    return .other
  | .punctuator .at => decorated g
  | .keyword word =>
    match word with
    | .if_ =>
      ifStatement g
      return .other
    | .do_ =>
      doStatement g
      return .other
    | .while =>
      whileStatement g
      return .other
    | .for_ =>
      forStatement g
      return .other
    | .continue_ | .break_ =>
      jump
      return .other
    | .with_ =>
      whileStatement g
      return .other
    | .switch =>
      switchStatement g
      return .other
    | .throw =>
      throwStatement g
      return .other
    | .try_ =>
      tryStatement g
      return .other
    | .debugger =>
      advance
      endStatement
      return .other
    | .class_ =>
      Classes.class_ g
      return .other
    | .export_ => Modules.exportStatement g
    | .return_ =>
      returnStatement g
      return .other
    | .var =>
      Declarations.variableStatement g
      return .other
    | .function =>
      Functions.declaration g
      return .other
    | .let_ =>
      if (← token).isEscaped then expressionStatement g else letStatement g single
      return .other
    | .import_ =>
      Modules.importStatement (expressionStatement g)
      return .other
    | .const =>
      if (← typed) && (← lookAhead do advance; atWord .enum) then
        advance
        return .bare (← Declarations.enum g [.const])
      Declarations.variableStatement g
      return .other
    | _ =>
      if word == .async && (← Functions.isAsyncFunction) then
        Functions.declaration g
        return .other
      if mayDeclare word && (← typed) && (← Declarations.begins) then
        return .bare (← Declarations.modifiedDeclaration g)
      if (← usingBegins) || (← awaitUsingBegins) then usingStatement g else expressionStatement g
      return .other
  | _ =>
    expressionStatement g
    return .other

end DeclSplit.Statements
