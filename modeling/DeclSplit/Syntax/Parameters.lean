import DeclSplit.Syntax.Modifiers

/-!
What declares names inside a construction: type parameters, parameters, and the patterns that take a value
apart.
-/

namespace DeclSplit.Parameters

open DeclSplit.Parser

variable (g : Grammar)

def typeAnnotation : Parser Unit := do
  if (← typed) && (← atMark .colon) then
    advance
    let _ ← g.type

def initializer : Parser Bool := do
  if ← eatMark .eq then
    let _ ← g.assignmentIn
    return true
  return false

def computedName : Parser ExprShape := do
  advance
  let shape ← g.assignmentIn
  expectMark .rBrack
  return shape

def propertyName : Parser Unit := do
  match ← kind with
  | .text | .numeral _ => advance
  | .punctuator .lBrack => discard (computedName g)
  | _ => wordName

def typeParameter : Parser Unit := do
  let _ ← memberModifiers true false
  let _ ← bindingName
  if ← eatWord .extends_ then
    let _ ← g.type
  if ← eatMark .eq then
    let _ ← g.type

def typeParameters : Parser Unit := do
  unless ← typed do return
  if ← atMark .lAngle then
    advance
    let list ← commaList .rAngle (typeParameter g)
    expectMark .rAngle
    if list.first.isNone then report .emptyTypeParameters

def bindingElement (optional : Bool) : Parser Unit := do
  let _ ← g .binding
  if optional && (← typed) then skipMark .question
  typeAnnotation g
  let _ ← initializer g

def bindingList (close : Punctuator) (element : Parser Unit) : Parser Unit :=
  discard <| commaList close do
    if ← eatMark .dot3 then
      bindingElement g true
    else element

def bindingProperty : Parser Unit := do
  let named := (← kind).isIdentifier
  propertyName g
  if named && !(← atMark .colon) then
    discard (initializer g)
  else
    expectMark .colon
    bindingElement g false

def binding : Parser BindingShape := do
  match ← kind with
  | .punctuator .lCurly =>
    advance
    bindingList g .rCurly (bindingProperty g)
    expectMark .rCurly
    return .pattern
  | .punctuator .lBrack =>
    advance
    bindingList g .rBrack do
      unless ← atMark .comma do bindingElement g false
    expectMark .rBrack
    return .pattern
  | _ =>
    let _ ← bindingName
    return .name

def decorators : Parser Unit :=
  repeatWhile do
    unless ← atMark .at do return false
    advance
    let _ ← inContext (fun c => { c with inDecorator := true }) (g .leftHand)
    return true

def parameter : Parser Unit := do
  decorators g
  let _ ← memberModifiers false false
  bindingElement g true

def parameters : Parser Unit := do
  expectMark .lParen
  if (← typed) && (← atWord .this_) then
    advance
    typeAnnotation g
    unless ← atMark .rParen do expectMark .comma
  bindingList g .rParen (parameter g)
  expectMark .rParen

end DeclSplit.Parameters
