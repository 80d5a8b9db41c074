import DeclSplit.Syntax.Declarations

/-!
Imports and exports.
-/

namespace DeclSplit.Modules

open DeclSplit.Parser

variable (g : Grammar)

def moduleName : Parser Unit := do
  if ← atKind .text then advance else wordName

def moduleNameStarts : Parser Bool := do
  let here ← kind
  return here.isWord || here == .text

def specifier : Parser Unit := do
  let isType ← atWord .type
  moduleName
  if isType then
    if ← eatWord .as then
      if ← eatWord .as then
        if ← moduleNameStarts then moduleName
      else if ← moduleNameStarts then moduleName
      return
    if ← moduleNameStarts then moduleName
  if ← eatWord .as then moduleName

def specifierList : Parser Unit := do
  expectMark .lCurly
  let _ ← commaList .rCurly specifier
  expectMark .rCurly

def attributes : Parser Unit := do
  let present := (← atWord .with_) || ((← atWord .assert) && !(← onNewLine))
  if present then
    advance
    expectMark .lCurly
    let _ ← commaList .rCurly do
      moduleName
      expectMark .colon
      Grammar.stringLiteral
    expectMark .rCurly

def source : Parser Unit := do
  Grammar.stringLiteral
  attributes
  endStatement

def importedNames : Parser Unit := do
  if ← eatMark .star then
    expectWord .as
    discard bindingName
  else if ← atMark .lCurly then specifierList
  else unexpected

def importGoesOn : Parser Bool := lookAhead do
  return (← atMark .star) || (← atMark .lCurly)

def fromIsName : Parser Bool := lookAhead do
  advance
  return (← atWord .from_) || (← atMark .eq)

def importRest : Parser Unit := do
  if ← atKind .text then
    source
    return
  let first ← kind
  let named := first.isIdentifier
  if named then advanceName
  let marksKind ←
    match first with
    | .keyword .type =>
      if ← atWord .from_ then fromIsName
      else pure ((← kind).isIdentifier || (← importGoesOn))
    | .keyword .defer => atMark .star
    | .keyword .source =>
      if ← atWord .from_ then lookAhead do advance; atWord .from_
      else pure (← kind).isIdentifier
    | _ => pure false
  let named ←
    if marksKind then
      if (← kind).isIdentifier then
        advanceName
        pure true
      else pure false
    else pure named
  if named && !(← atMark .comma) && !(← atWord .from_) then
    Declarations.importEquals
    return
  if named then
    if ← eatMark .comma then importedNames
  else importedNames
  expectWord .from_
  source

def importStatement (expression : Parser Unit) : Parser Unit := do
  let isExpression ← lookAhead do
    advance
    return (← atMark .dot) || (← atMark .lParen)
  if isExpression then expression
  else
    advance
    importRest

def exportedNames : Parser Unit := do
  let _ ← eatWord .type
  specifierList
  if ← eatWord .from_ then source else endStatement

def exportedAll : Parser Unit := do
  let _ ← eatWord .type
  advance
  if ← eatWord .as then moduleName
  expectWord .from_
  source

def exportedDefault : Parser Introduced := do
  Parameters.decorators g
  if ← atWord .class_ then
    Classes.class_ g
    return .other
  if (← atWord .abstract_) && (← nextOnLine .class_) then
    advance
    Classes.class_ g
    return .other
  if (← atWord .interface) && !(← lookAhead do advance; onNewLine) then
    if ← typed then return ← Declarations.interface g []
    unexpected
    return .other
  if (← atWord .function) || (← Functions.isAsyncFunction) then
    Functions.declaration g
    return .other
  let _ ← g.assignment
  endStatement
  return .other

def standing (declaration : Parser Introduced) : Parser InnerDeclaration := do
  let start ← position
  let declared ← declaration
  return ⟨⟨start, ← lastEnd⟩, declared⟩

def exportStatement : Parser StatementForm := do
  advance
  match ← kind with
  | .punctuator .eq =>
    if ← typed then
      advance
      let _ ← g.assignment
      endStatement
    else unexpected
    return .other
  | .keyword .as =>
    if ← typed then
      advance
      expectWord .namespace_
      wordName
      endStatement
    else unexpected
    return .other
  | .keyword .default_ =>
    advance
    return .exportedDefault (← standing (exportedDefault g))
  | .punctuator .star =>
    exportedAll
    return .other
  | .punctuator .lCurly =>
    exportedNames
    return .exported none
  | here =>
    if here == .keyword .type && (← typed) then
      match ← lookAhead do advance; kind with
      | .punctuator .lCurly =>
        exportedNames
        return .exported none
      | .punctuator .star =>
        exportedAll
        return .other
      | _ => pure ()
    Parameters.decorators g
    if ← typed then return .exported (some (← standing (Declarations.modifiedDeclaration g)))
    return .exported (some (← standing do
      let isAsync ← eatWord .async
      Declarations.declaration g (if isAsync then [.async] else [])))

end DeclSplit.Modules
