import DeclSplit.Syntax.Expressions
import DeclSplit.Syntax.Statement

/-!
Declarations: variables, type aliases, interfaces, enums, name spaces, and imports under another name.
-/

namespace DeclSplit.Declarations

open DeclSplit.Parser

variable (g : Grammar)

structure VariableRule where
  isConstant : Bool
  checked : Bool

def variable_ (rule : VariableRule) : Parser (Option Diagnostic) := do
  let shape ← g .binding
  if ← typed then
    if shape == .name && (← atMark .bang) && !(← onNewLine) then advance
    skipMark .question
    Parameters.typeAnnotation g
  let hasValue ←
    if ← eatMark .eq then
      let _ ← g.assignment
      pure true
    else pure false
  if hasValue || (← context).ambient then return none
  match shape, rule.isConstant with
  | .pattern, _ =>
    if rule.checked then report .patternWithoutValue
    return some .patternWithoutValue
  | .name, true =>
    if rule.checked then report .constantWithoutValue
    return some .constantWithoutValue
  | .name, false => return none

def variableList (rule : VariableRule) : Parser (List Diagnostic) := do
  let rec rounds : Nat → Parser (List Diagnostic)
    | 0 => pure []
    | n + 1 => do
      let missing ← variable_ g rule
      if ← eatMark .comma then return missing.toList ++ (← rounds n) else return missing.toList
  let start ← cursor
  rounds (start.size - start.offset + 4)

def variableStatement : Parser Unit := do
  let isConstant ← atWord .const
  advance
  let _ ← variableList g ⟨isConstant, true⟩
  endStatement

def typeAlias (modifiers : List Keyword) : Parser Introduced := do
  expectWord .type
  let name ← bindingName
  Parameters.typeParameters g
  expectMark .eq
  let isIntrinsic ← do
    if ← atWord .intrinsic then lookAhead do advance; return !(← atMark .dot)
    else pure false
  if isIntrinsic then advance else discard g.type
  endStatement
  allowOnly [.declare] modifiers .modifierHere
  return .typeAlias name

def interface (modifiers : List Keyword) : Parser Introduced := do
  expectWord .interface
  let name ← bindingName
  Parameters.typeParameters g
  let heritage ← Classes.heritage g
  Types.members g
  allowOnly [.declare] modifiers .modifierHere
  heritage.bases.forM fun shape => do
    unless shape.isEntityName do report .interfaceExtends
  if heritage.implements then report .interfaceImplements
  return .interface name

def enumMemberName : Parser Unit := do
  match ← kind with
  | .text => advance
  | .punctuator .lBrack =>
    match ← Parameters.computedName g with
    | .text | .plainTemplate => pure ()
    | .numeral => failWith .numericEnumName
    | _ => failWith .computedEnumName
  | .template .whole | .template .head => failWith .computedEnumName
  | .numeral _ => failWith .numericEnumName
  | _ => wordName

def enumMember : Parser Unit := do
  enumMemberName g
  if ← eatMark .eq then discard g.assignment

def enum (modifiers : List Keyword) : Parser Introduced := do
  expectWord .enum
  let name ← bindingName
  expectMark .lCurly
  let _ ← inContext (fun c => { c with inAsync := false, inGenerator := false }) <|
    commaList .rCurly (enumMember g)
  expectMark .rCurly
  allowOnly [.declare, .const] modifiers .modifierHere
  return .enum name

def moduleBlock : Parser Unit := do
  expectMark .lCurly
  Functions.statements g
  expectMark .rCurly

def namespace_ (modifiers : List Keyword) : Parser Unit := do
  let isModule ← atWord .module_
  advance
  if isModule && (← atKind .text) then
    advance
    if ← atMark .lCurly then moduleBlock g else endStatement
  else
    let _ ← bindingName
    repeatWhile do
      unless ← eatMark .dot do return false
      wordName
      return true
    moduleBlock g
  allowOnly [.declare] modifiers .modifierHere

def global (modifiers : List Keyword) : Parser Unit := do
  advance
  moduleBlock g
  allowOnly [.declare] modifiers .modifierHere

def importEquals : Parser Unit := do
  expectMark .eq
  if ← eatWord .require then
    expectMark .lParen
    Grammar.stringLiteral
    expectMark .rParen
  else Types.entityName
  endStatement

def declaration (modifiers : List Keyword) : Parser Introduced := do
  match ← kind with
  | .keyword .var | .keyword .let_ | .keyword .const =>
    variableStatement g
    allowOnly [.declare] modifiers .modifierHere
    return .other
  | .keyword .class_ =>
    Classes.class_ g
    allowOnly [.declare, .abstract_] modifiers .modifierHere
    return .other
  | .keyword .function =>
    Functions.named g (modifiers.contains .async)
    allowOnly [.declare, .async] modifiers .modifierHere
    return .other
  | .keyword .import_ =>
    advance
    let isType ← atWord .type
    wordName
    if isType && (← kind).isIdentifier then advanceName
    importEquals
    return .other
  | .keyword .module_ | .keyword .namespace_ =>
    namespace_ g modifiers
    return .other
  | .keyword .global =>
    global g modifiers
    return .other
  | .keyword .type => typeAlias g modifiers
  | .keyword .enum => enum g modifiers
  | .keyword .interface => interface g modifiers
  | _ =>
    unexpected
    return .other

def modifiedDeclaration : Parser Introduced := do
  let modifiers ← declarationModifiers
  inContext (fun c => { c with ambient := c.ambient || modifiers.contains .declare })
    (declaration g modifiers)

def begins : Parser Bool := lookAhead do
  let rec rounds : Nat → Parser Bool
    | 0 => pure false
    | n + 1 => do
      match ← kind with
      | .keyword .var | .keyword .let_ | .keyword .const | .keyword .function | .keyword .class_
      | .keyword .enum => return true
      | .keyword .interface | .keyword .type =>
        advance
        return (← kind).isIdentifier && !(← onNewLine)
      | .keyword .module_ | .keyword .namespace_ =>
        advance
        return !(← onNewLine) && ((← kind).isIdentifier || (← atKind .text))
      | .keyword .declare =>
        advance
        if ← onNewLine then return false
        if ← atWord .type then return true
        rounds n
      | .keyword .abstract_ | .keyword .accessor | .keyword .async | .keyword .private_
      | .keyword .protected_ | .keyword .public_ | .keyword .readonly =>
        advance
        if ← onNewLine then return false
        rounds n
      | .keyword .global =>
        advance
        return (← atKind .name) || (← atMark .lCurly) || (← atWord .export_)
      | .keyword .import_ =>
        advance
        return (← kind).isIdentifier || (← atKind .text) || (← atMark .star) || (← atMark .lCurly)
      | .keyword .export_ =>
        advance
        return (← atMark .eq) || (← atMark .star) || (← atMark .lCurly) || (← atMark .at) ||
          (← atWord .default_) || (← atWord .as)
      | .keyword .static =>
        advance
        rounds n
      | _ => return false
  let start ← cursor
  rounds (start.size - start.offset + 4)

end DeclSplit.Declarations
