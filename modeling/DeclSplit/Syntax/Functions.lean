import DeclSplit.Syntax.Types

/-!
Functions: bodies, declarations, methods, and arrow functions.  Whether an opening parenthesis begins the
parameters of an arrow function is decided by looking a few tokens ahead, and where that does not settle it,
by trying.
-/

namespace DeclSplit.Functions

open DeclSplit.Parser

variable (g : Grammar)

def statements : Parser Unit := itemsUntil .rCurly (g.statement false)

def body : Parser Unit := do
  expectMark .lCurly
  inContext (fun c => { c with inFunction := true, allowIn := true }) (statements g)
  expectMark .rCurly

structure Kind where
  isAsync : Bool
  isGenerator : Bool

def inside (kind : Kind) (c : Context) : Context :=
  { c with allowIn := true, inAsync := kind.isAsync, inGenerator := kind.isGenerator }

def rest (kind : Kind) : Parser Unit := do
  let hasBody ← inContext (inside kind) do
    Parameters.typeParameters g
    Parameters.parameters g
    Types.resultType g
    if ← atMark .lCurly then
      body g
      return true
    return false
  unless hasBody do
    if ← typed then endStatement else unexpected

def named (isAsync : Bool) : Parser Unit := do
  expectWord .function
  let isGenerator ← eatMark .star
  if (← kind).isIdentifier then advanceName
  rest g ⟨isAsync, isGenerator⟩

def isAsyncFunction : Parser Bool := do
  if ← atWord .async then nextOnLine .function else return false

def declaration : Parser Unit := do
  let isAsync ← eatWord .async
  named g isAsync

inductive Outlook where
  | arrow | other | unclear
deriving DecidableEq, Repr

def parenthesisOutlook : Parser Outlook := do
  advance
  let second ← kind
  match second with
  | .punctuator .rParen =>
    advance
    match ← kind with
    | .punctuator .arrow | .punctuator .colon | .punctuator .lCurly => return .arrow
    | _ => return .other
  | .punctuator .lBrack | .punctuator .lCurly => return .unclear
  | .punctuator .dot3 =>
    advance
    if (← kind).isIdentifier || (← atMark .lBrack) || (← atMark .lCurly) || (← atWord .this_) then
      return .arrow
    return .other
  | _ =>
    advance
    let third ← kind
    if second.isModifier && second != .keyword .async && third.isIdentifier then
      return if third == .keyword .as then .other else .arrow
    unless second.isIdentifier || second == .keyword .this_ do return .other
    match third with
    | .punctuator .colon => return .arrow
    | .punctuator .question =>
      advance
      match ← kind with
      | .punctuator .colon | .punctuator .comma | .punctuator .eq | .punctuator .rParen => return .arrow
      | _ => return .other
    | .punctuator .comma | .punctuator .eq | .punctuator .rParen => return .unclear
    | _ => return .other

def angleOutlook : Parser Outlook := do
  advance
  let second ← kind
  unless second.isIdentifier || second == .keyword .const do return .other
  unless (← dialect).markup do return .unclear
  advance
  match ← kind with
  | .keyword .extends_ =>
    advance
    match ← kind with
    | .punctuator .eq | .punctuator .rAngle | .punctuator .slash => return .other
    | _ => return .arrow
  | .punctuator .comma | .punctuator .eq => return .arrow
  | _ => return .other

def outlook : Parser Outlook := lookAhead do
  if ← atWord .async then
    advance
    if ← onNewLine then return .other
  match ← kind with
  | .punctuator .lParen => parenthesisOutlook
  | .punctuator .lAngle => angleOutlook
  | _ => return .other

def arrowHead : Parser (Bool × Bool) := do
  let isAsync ← eatWord .async
  let colon ← inContext (fun c => { c with inAsync := c.inAsync || isAsync }) do
    Parameters.typeParameters g
    Parameters.parameters g
    let colon := (← typed) && (← atMark .colon)
    Types.resultType g
    return colon
  expectMark .arrow
  return (isAsync, colon)

def arrowBody (isAsync returnType : Bool) : Parser Unit :=
  inContext (fun c => { c with inAsync := isAsync, inGenerator := false }) do
    if ← atMark .lCurly then body g
    else discard (g (.assignment returnType))

def settledArrow : Parser Unit := do
  let (isAsync, _) ← arrowHead g
  arrowBody g isAsync true

/-- Tries an arrow function.  In the middle of a conditional, a colon that could begin a result type is one
only if another colon is left for the conditional. -/
def triedArrow (returnType : Bool) : Parser Bool := do
  let tried ← attempt do
    let head ← arrowHead g
    if ← exhausted then unexpected
    return head
  match tried with
  | none => return false
  | some (isAsync, colon) =>
    arrowBody g isAsync returnType
    return returnType || !colon || (← atMark .colon)

def arrowInParentheses (returnType : Bool) : Parser Bool := do
  match ← outlook with
  | .other => return false
  | .arrow =>
    settledArrow g
    return true
  | .unclear =>
    let found ← orReturn do
      if ← triedArrow g returnType then return some () else return none
    return found.isSome

def arrowFromName (isAsync returnType : Bool) : Parser Unit := do
  expectMark .arrow
  arrowBody g isAsync returnType

def asyncArrow (returnType : Bool) : Parser Bool := do
  unless ← atWord .async do return false
  let found ← lookAhead do
    advance
    if (← onNewLine) || !(← kind).isIdentifier then return false
    advanceName
    return (← atMark .arrow) && !(← onNewLine)
  unless found do return false
  advance
  advanceName
  arrowFromName g true returnType
  return true

end DeclSplit.Functions
