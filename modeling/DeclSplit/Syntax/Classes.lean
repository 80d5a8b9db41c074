import DeclSplit.Syntax.Functions

/-!
Classes: what they extend and implement, and their members.
-/

namespace DeclSplit.Classes

open DeclSplit.Parser

variable (g : Grammar)

def extendsClause : Parser (List ExprShape) := do
  advance
  let rec rounds : Nat → Parser (List ExprShape)
    | 0 => pure []
    | n + 1 => do
      let shape ← match ← g .leftHand with
        | .instantiated inner => pure inner
        | shape => do
          Types.argumentsHere g
          pure shape
      if ← eatMark .comma then return shape :: (← rounds n) else return [shape]
  let start ← cursor
  rounds (start.size - start.offset + 4)

def implementsClause : Parser Unit := do
  advance
  repeatWhile do
    Types.reference g
    eatMark .comma

structure Heritage where
  bases : List ExprShape
  implements : Bool

def heritage : Parser Heritage := do
  let rec rounds : Nat → Option (List ExprShape) → Bool → Parser Heritage
    | 0, bases, implements => pure ⟨bases.getD [], implements⟩
    | n + 1, bases, implements => do
      match ← kind with
      | .keyword .extends_ =>
        if bases.isSome then report .extendsSeen
        else if implements then report .extendsAfterImplements
        let shapes ← extendsClause g
        rounds n (some shapes) implements
      | .keyword .implements =>
        if implements then report .implementsSeen
        implementsClause g
        rounds n bases true
      | _ => return ⟨bases.getD [], implements⟩
  let start ← cursor
  rounds (start.size - start.offset + 4) none false

def memberName : Parser Unit := do
  if ← atKind .privateName then advance else Parameters.propertyName g

def propertyOrMethod (modifiers : List Keyword) : Parser Unit := do
  let isGenerator ← eatMark .star
  memberName g
  let _ ← eatMark .question
  if isGenerator || (← atMark .lParen) || (← atMark .lAngle) then
    Functions.rest g ⟨modifiers.contains .async, isGenerator⟩
  else
    if (← atMark .bang) && !(← onNewLine) then advance
    Parameters.typeAnnotation g
    let _ ← inContext (fun c => { c with inAsync := false, inGenerator := false })
      (Parameters.initializer g)
    endStatement

def member : Parser Unit := do
  Parameters.decorators g
  let modifiers ← memberModifiers true true
  if (← atWord .static) && (← lookAhead do advance; atMark .lCurly) then
    advance
    advance
    inContext (fun c => { c with inFunction := false, inAsync := true, inGenerator := false, allowIn := true })
      (Functions.statements g)
    expectMark .rCurly
    return
  if ← either (eatModifier .get) (eatModifier .set) then
    memberName g
    Functions.rest g ⟨false, false⟩
    return
  if ← Types.isIndexSignature then
    Types.indexSignature g
    return
  match ← kind with
  | .name | .keyword _ | .text | .numeral _ | .privateName | .punctuator .star | .punctuator .lBrack =>
    inContext (fun c => { c with ambient := c.ambient || modifiers.contains .declare })
      (propertyOrMethod g modifiers)
  | _ => unexpected

def body : Parser Unit := do
  expectMark .lCurly
  itemsUntil .rCurly do
    unless ← eatMark .semicolon do member g
  expectMark .rCurly

def class_ : Parser Unit := do
  advance
  if (← kind).isIdentifier && !(← atWord .implements) then
    discard bindingName
  Parameters.typeParameters g
  let _ ← heritage g
  body g

end DeclSplit.Classes
