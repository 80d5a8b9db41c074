import DeclSplit.Syntax.Modifiers
import DeclSplit.Syntax.Parameters

/-!
Types, from conditional types down to type references, and the members of object types.
-/

namespace DeclSplit.Types

open DeclSplit.Parser

variable (g : Grammar)

def entityName : Parser Unit := do
  wordName
  repeatWhile do
    unless ← eatMark .dot do return false
    wordName
    return true

def argumentsHere : Parser Unit := do
  if ← atMark .shl then reread Lexeme.readOpenAngle
  if ← atMark .lAngle then
    advance
    let list ← commaList .rAngle (discard g.type)
    expectMark .rAngle
    if list.first.isNone then report .emptyTypeArguments

def argumentsOnLine : Parser Unit := do
  unless ← onNewLine do argumentsHere g

def reference : Parser Unit := do
  entityName
  argumentsOnLine g

def isStart (inParameter : Bool) : Parser Bool := do
  let here ← kind
  match here with
  | .numeral _ | .text | .template .whole | .template .head => return true
  | .keyword word =>
    match word with
    | .function => return !inParameter
    | .void | .null | .this_ | .typeof | .new | .true_ | .false_ | .break_ | .import_ => return true
    | _ => return here.isIdentifier
  | .punctuator mark =>
    match mark with
    | .lCurly | .lBrack | .lAngle | .pipe | .amp | .star | .question | .bang | .dot3 => return true
    | .minus => if inParameter then return false else lookAhead do advance; return (← kind).isNumeral
    | .lParen =>
      if inParameter then return false
      else lookAhead do
        advance
        let inside ← kind
        return inside == .punctuator .rParen || inside == .punctuator .dot3 || inside.isIdentifier ||
          [TokenKind.punctuator .lBrack, .punctuator .lCurly, .punctuator .at, .punctuator .lAngle,
            .punctuator .pipe, .punctuator .amp, .punctuator .star, .punctuator .question,
            .punctuator .bang, .punctuator .minus, .punctuator .lParen, .text, .template .whole,
            .template .head].contains inside ||
          inside.isModifier || inside.isNumeral ||
          [TokenKind.keyword .void, .keyword .null, .keyword .this_, .keyword .typeof, .keyword .new,
            .keyword .true_, .keyword .false_, .keyword .break_, .keyword .import_,
            .keyword .function].contains inside
    | _ => return false
  | _ => return here.isIdentifier

def parametersBegin : Parser Bool := lookAhead do
  advance
  if (← atMark .rParen) || (← atMark .dot3) then return true
  if (← kind).isModifier then
    let _ ← memberModifiers false false
  let skipped ← do
    let here ← kind
    if here.isIdentifier || here == .keyword .this_ then
      advance
      pure true
    else if here == .punctuator .lBrack || here == .punctuator .lCurly then
      let before ← reported
      let _ ← g .binding
      pure (!(← exhausted) && (← reported) == before)
    else pure false
  unless skipped do return false
  match ← kind with
  | .punctuator .colon | .punctuator .comma | .punctuator .question | .punctuator .eq => return true
  | .punctuator .rParen =>
    advance
    atMark .arrow
  | _ => return false

def isFunctionStart : Parser Bool := do
  match ← kind with
  | .punctuator .lAngle | .keyword .new => return true
  | .punctuator .lParen => parametersBegin g
  | .keyword .abstract_ => lookAhead do advance; atWord .new
  | _ => return false

def typeOrPredicate : Parser Unit := do
  if (← kind).isIdentifier then
    let _ ← attempt do
      wordName
      if (← atWord .is) && !(← onNewLine) then advance else unexpected
  let _ ← g.type

def resultType : Parser Unit := do
  if (← typed) && (← atMark .colon) then
    advance
    typeOrPredicate g

def functionType : Parser Unit := do
  let _ ← eatWord .abstract_
  let _ ← eatWord .new
  Parameters.typeParameters g
  Parameters.parameters g
  advance
  typeOrPredicate g

def memberEnd : Parser Unit := do
  unless ← eatMark .comma do skipMark .semicolon

def callSignature : Parser Unit := do
  Parameters.typeParameters g
  Parameters.parameters g
  resultType g

def isIndexSignature : Parser Bool := do
  unless ← atMark .lBrack do return false
  lookAhead do
    advance
    if (← atMark .dot3) || (← atMark .lBrack) then return true
    if (← kind).isModifier then
      advance
      if (← kind).isIdentifier then return true
    else
      unless (← kind).isIdentifier do return false
      advance
    match ← kind with
    | .punctuator .colon | .punctuator .comma => return true
    | .punctuator .question =>
      advance
      match ← kind with
      | .punctuator .colon | .punctuator .comma | .punctuator .rBrack => return true
      | _ => return false
    | _ => return false

def indexSignature : Parser Unit := do
  expectMark .lBrack
  let _ ← commaList .rBrack do
    wordName
    if ← atMark .colon then
      advance
      let _ ← g.type
    else unexpected
  expectMark .rBrack
  if (← typed) && (← atMark .colon) then
    advance
    let _ ← g.type
    memberEnd
  else failWith .untypedIndex

def member : Parser Unit := do
  let here ← kind
  if here == .punctuator .lParen || here == .punctuator .lAngle then
    callSignature g
    memberEnd
    return
  if here == .keyword .new then
    let constructs ← lookAhead do
      advance
      return (← atMark .lParen) || (← atMark .lAngle)
    if constructs then
      advance
      callSignature g
      memberEnd
      return
  let modifiers ← memberModifiers false false
  allowOnly [.readonly] modifiers .modifierOnMember
  if ← either (eatModifier .get) (eatModifier .set) then
    Parameters.propertyName g
    Parameters.parameters g
    resultType g
    memberEnd
    return
  if ← isIndexSignature then
    indexSignature g
    return
  Parameters.propertyName g
  let _ ← eatMark .question
  if (← atMark .lParen) || (← atMark .lAngle) then
    callSignature g
  else
    Parameters.typeAnnotation g
  memberEnd

def members : Parser Unit := enclosed .lCurly .rCurly (member g)

def isMapped : Parser Bool := lookAhead do
  advance
  if (← atMark .plus) || (← atMark .minus) then
    advance
    return ← atWord .readonly
  let _ ← eatWord .readonly
  unless ← atMark .lBrack do return false
  advance
  unless (← kind).isIdentifier do return false
  advance
  atWord .in_

def mapped : Parser Unit := do
  expectMark .lCurly
  unless ← eatWord .readonly do
    if ← either (eatMark .plus) (eatMark .minus) then
      let _ ← eatWord .readonly
  expectMark .lBrack
  let _ ← bindingName
  expectWord .in_
  let _ ← g.type
  if ← eatWord .as then
    let _ ← g.type
  expectMark .rBrack
  match ← kind with
  | .punctuator .question => advance
  | .punctuator .minus | .punctuator .plus =>
    advance
    expectMark .question
  | _ => pure ()
  if ← eatMark .colon then
    let _ ← g.type
  skipMark .semicolon
  expectMark .rCurly

def colonFollows : Parser Bool := do
  advance
  if ← atMark .colon then return true
  unless ← atMark .question do return false
  advance
  atMark .colon

def tupleElement : Parser Unit := do
  let named ← lookAhead do
    let _ ← eatMark .dot3
    if (← kind).isWord then colonFollows else return false
  let _ ← eatMark .dot3
  if named then
    wordName
    let _ ← eatMark .question
    expectMark .colon
    let _ ← eatMark .dot3
  let _ ← g.type

def tuple : Parser Unit := do
  expectMark .lBrack
  let _ ← commaList .rBrack (tupleElement g)
  expectMark .rBrack

def templateHoles (hole : Parser Unit) : Parser Unit := do
  advance
  let holeAndBrace : Parser Unit := do
    hole
    if ← atMark .rCurly then reread Lexeme.readTemplateRest
  holeAndBrace
  repeatWhile do
    if ← failed then return false
    match ← kind with
    | .template .tail =>
      advance
      return false
    | .template .middle =>
      advance
      return true
    | .finish =>
      expect (.template .tail)
      return false
    | _ =>
      holeAndBrace
      return true

def importType : Parser Unit := do
  let _ ← eatWord .typeof
  expectWord .import_
  expectMark .lParen
  let _ ← g.type
  if ← eatMark .comma then
    let _ ← g.assignmentIn
  expectMark .rParen
  if ← eatMark .dot then entityName
  argumentsOnLine g

def keywordType : Parser Unit := do
  let passed ← attempt do
    advance
    if ← atMark .dot then unexpected
  if passed.isNone then reference g

def isTypeWord : Keyword → Bool
  | .any | .unknown | .string | .number | .bigint | .symbol | .boolean | .undefined | .never | .object
  | .null => true
  | _ => false

def primaryType : Parser TypeShape := do
  match ← kind with
  | .keyword word =>
    if isTypeWord word then
      keywordType g
      return .other
    match word with
    | .true_ | .false_ | .void => advance
    | .this_ =>
      advance
      if (← atWord .is) && !(← onNewLine) then
        advance
        let _ ← g.type
    | .typeof =>
      if ← lookAhead do advance; atWord .import_ then importType g
      else
        advance
        entityName
        argumentsOnLine g
    | .import_ => importType g
    | .asserts =>
      let asserting ← lookAhead do
        advance
        return (← kind).isWord && !(← onNewLine)
      if asserting then
        advance
        wordName
        if ← eatWord .is then
          let _ ← g.type
      else reference g
    | _ => reference g
    return .other
  | .punctuator mark =>
    match mark with
    | .question =>
      advance
      match ← kind with
      | .punctuator .comma | .punctuator .rCurly | .punctuator .rParen | .punctuator .rAngle
      | .punctuator .eq | .punctuator .pipe => pure ()
      | _ => discard g.type
      return .other
    | .bang =>
      advance
      let _ ← g .primaryType
      return .other
    | .minus =>
      if ← lookAhead do advance; return (← kind).isNumeral then
        advance
        advance
      else reference g
      return .other
    | .lCurly =>
      if ← isMapped then mapped g else members g
      return .other
    | .lBrack =>
      tuple g
      return .arrayOrTuple
    | .lParen =>
      advance
      let _ ← g.type
      expectMark .rParen
      return .other
    | _ =>
      reference g
      return .other
  | .template .head =>
    templateHoles (discard g.type)
    return .other
  | .numeral _ | .text | .template .whole =>
    advance
    return .other
  | _ =>
    reference g
    return .other

def postfixType : Parser TypeShape := do
  let first ← g .primaryType
  let rec rounds : Nat → TypeShape → Parser TypeShape
    | 0, shape => pure shape
    | n + 1, shape => do
      if ← onNewLine then return shape
      match ← kind with
      | .punctuator .bang =>
        advance
        rounds n .other
      | .punctuator .question =>
        if ← lookAhead do advance; isStart false then return shape
        advance
        rounds n .other
      | .punctuator .lBrack =>
        advance
        if ← isStart false then
          let _ ← g.type
          expectMark .rBrack
          rounds n .other
        else
          expectMark .rBrack
          rounds n .arrayOrTuple
      | _ => return shape
  let start ← cursor
  rounds (start.size - start.offset + 4) first

def inferredConstraint : Parser Unit := do
  if ← atWord .extends_ then
    let _ ← orReturn do
      advance
      let _ ← inContext (fun c => { c with noConditionalTypes := true }) g.type
      if (← context).noConditionalTypes || !(← atMark .question) then return some () else return none

def typeOperator : Parser TypeShape := do
  match ← kind with
  | .keyword .keyof | .keyword .unique =>
    advance
    let _ ← g .typeOperator
    return .other
  | .keyword .readonly =>
    advance
    let operand ← g .typeOperator
    unless operand == .arrayOrTuple do report .readonlyOperand
    return .other
  | .keyword .infer =>
    advance
    let _ ← bindingName
    inferredConstraint g
    return .other
  | _ => inContext (fun c => { c with noConditionalTypes := false }) (postfixType g)

def joined (mark : Punctuator) (constituent : Parser TypeShape) : Parser TypeShape := do
  let leading ← eatMark mark
  let first ← constituent
  if leading || (← atMark mark) then
    repeatWhile do
      unless ← eatMark mark do return false
      let _ ← constituent
      return true
    return .other
  return first

def unionType : Parser TypeShape := joined .pipe (joined .amp (typeOperator g))

def type : Parser TypeShape := do
  if ← isFunctionStart g then
    functionType g
    return .other
  let subject ← unionType g
  if !(← context).noConditionalTypes && !(← onNewLine) && (← atWord .extends_) then
    advance
    let _ ← inContext (fun c => { c with noConditionalTypes := true }) g.type
    expectMark .question
    let _ ← inContext (fun c => { c with noConditionalTypes := false }) g.type
    expectMark .colon
    let _ ← inContext (fun c => { c with noConditionalTypes := false }) g.type
    return .other
  return subject

end DeclSplit.Types
