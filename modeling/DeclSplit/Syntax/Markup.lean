import DeclSplit.Syntax.Types

/-!
Markup elements inside expressions.  Between the tags of an element the text is read by its own scanner, so
the step from a tag into the children of an element names the scanner for what comes next.
-/

namespace DeclSplit.Markup

open DeclSplit.Parser

variable (g : Grammar)

def advanceToChild : Parser Unit := fun s =>
  ⟨(), s.step 0 false Lexeme.readMarkupChild, s.before_step 0 false Lexeme.readMarkupChild⟩

def expectThenChild (mark : Punctuator) : Parser Unit := do
  require (.punctuator mark)
  advanceToChild

def expectThen (asChild : Bool) (mark : Punctuator) : Parser Unit :=
  if asChild then expectThenChild mark else expectMark mark

def identifier : Parser Unit := do
  if (← kind).isWord then
    reread Lexeme.readMarkupName
    advanceName
  else unexpected

def elementName : Parser Unit := do
  identifier
  if ← eatMark .colon then identifier
  else
    repeatWhile do
      unless ← eatMark .dot do return false
      identifier
      return true

def hole (asChild : Bool) : Parser Unit := do
  advance
  let _ ← eatMark .dot3
  unless ← atMark .rCurly do discard g.expressionIn
  expectThen asChild .rCurly

def property : Parser Unit := do
  if ← eatMark .lCurly then
    expectMark .dot3
    let _ ← g.expressionIn
    expectMark .rCurly
  else
    identifier
    if ← eatMark .colon then identifier
    if ← atMark .eq then
      advanceWith Lexeme.readMarkupValue
      match ← kind with
      | .text => advance
      | .punctuator .lCurly => hole g false
      | .punctuator .lAngle => g .markup
      | _ => unexpected

def properties : Parser Unit :=
  repeatWhile do
    match ← kind with
    | .punctuator .lAngle | .punctuator .rAngle | .punctuator .slash => return false
    | _ =>
      if ← failed then return false
      property g
      return true

/-- Children of an element up to its closing tag, whose angle is left in front.  An element that is a child
is read with the children of its parent still to come. -/
def children (element : Parser Unit) : Parser Unit :=
  repeatWhile do
    if ← failed then return false
    match ← kind with
    | .punctuator .lAngle =>
      if ← lookAhead do advance; atMark .slash then return false
      element
      return true
    | .punctuator .lCurly =>
      hole g true
      return true
    | .markupText =>
      advanceToChild
      return true
    | _ =>
      unexpected
      return false

def element : (depth : Nat) → (asChild : Bool) → Parser Unit
  | 0, _ => unexpected
  | depth + 1, asChild => do
    advance
    if ← atMark .rAngle then
      expectThenChild .rAngle
      children g (element depth true)
      expectMark .lAngle
      expectMark .slash
      expectThen asChild .rAngle
    else if (← kind).isWord then
      elementName
      if ← typed then Types.argumentsHere g
      properties g
      if ← eatMark .slash then
        expectThen asChild .rAngle
      else
        expectThenChild .rAngle
        children g (element depth true)
        expectMark .lAngle
        expectMark .slash
        elementName
        expectThen asChild .rAngle
    else unexpected

def markup : Parser Unit := do
  let start ← cursor
  element g (start.size - start.offset + 4) false

end DeclSplit.Markup
