import DeclSplit.Syntax.Grammar

/-!
Modifiers.  A word is a modifier only if what follows it can be modified; otherwise the word is a name.
-/

namespace DeclSplit.Parser

def canFollowModifier : Parser Bool := do
  match ← kind with
  | .privateName | .text | .numeral _ | .name | .keyword _ => return true
  | .punctuator mark => return [.lBrack, .lCurly, .star, .dot3].contains mark
  | _ => return false

def nextOnLine (word : Keyword) : Parser Bool := lookAhead do
  advance
  return (← atWord word) && !(← onNewLine)

def canFollowDefault : Parser Bool := do
  match ← kind with
  | .keyword .class_ | .keyword .function | .keyword .interface | .punctuator .at => return true
  | .keyword .abstract_ => nextOnLine .class_
  | .keyword .async => nextOnLine .function
  | _ => return false

def canFollowExport : Parser Bool := do
  match ← kind with
  | .punctuator .at => return true
  | .punctuator .star | .keyword .as | .punctuator .lCurly => return false
  | _ => canFollowModifier

def passModifier : Parser Bool := do
  let word ← kind
  advance
  match word with
  | .keyword .const => atWord .enum
  | .keyword .export_ =>
    match ← kind with
    | .keyword .default_ => lookAhead do advance; canFollowDefault
    | .keyword .type => lookAhead do advance; canFollowExport
    | _ => canFollowExport
  | .keyword .default_ => canFollowDefault
  | .keyword .static | .keyword .get | .keyword .set => canFollowModifier
  | _ => return !(← onNewLine) && (← canFollowModifier)

def eatModifier (word : Keyword) : Parser Bool := do
  unless ← atWord word do return false
  let passed ← orReturn do
    if ← passModifier then return some () else return none
  return passed.isSome

def declarationModifiers : Parser (List Keyword) := do
  let rec rounds : Nat → List Keyword → Parser (List Keyword)
    | 0, seen => pure seen.reverse
    | n + 1, seen => do
      let .keyword word ← kind | return seen.reverse
      unless word.isModifier && (← lookAhead passModifier) do return seen.reverse
      advance
      if word == .export_ then
        report .exportAfterDeclare
      else if seen.contains word then
        report (.modifierSeen word.spelling)
      rounds n (word :: seen)
  let start ← cursor
  rounds (start.size - start.offset + 4) []

def memberModifier (seenStatic permitConst stopAtBlock : Bool) : Parser (Option Keyword) := do
  let .keyword word ← kind | return none
  unless word.isModifier do return none
  match word with
  | .const =>
    unless permitConst do return none
    orReturn do
      advance
      if !(← onNewLine) && (← canFollowModifier) then return some word else return none
  | .static =>
    if seenStatic then return none
    if stopAtBlock && (← lookAhead do advance; atMark .lCurly) then return none
    orReturn do
      if ← passModifier then return some word else return none
  | _ =>
    orReturn do
      if ← passModifier then return some word else return none

def memberModifiers (permitConst stopAtBlock : Bool) : Parser (List Keyword) := do
  let rec rounds : Nat → List Keyword → Parser (List Keyword)
    | 0, seen => pure seen.reverse
    | n + 1, seen => do
      match ← memberModifier (seen.contains .static) permitConst stopAtBlock with
      | none => return seen.reverse
      | some word =>
        if seen.contains word then
          report (.modifierSeen word.spelling)
        rounds n (word :: seen)
  let start ← cursor
  rounds (start.size - start.offset + 4) []

def allowOnly (allowed found : List Keyword) (complaint : String → Diagnostic) : Parser Unit :=
  found.forM fun word => do
    unless allowed.contains word do report (complaint word.spelling)

end DeclSplit.Parser
