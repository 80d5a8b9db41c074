import DeclSplit.CommandLine.Similarity
import DeclSplit.CommandLine.Usage

/-!
What can be wrong with a command line, and how it is told.
-/

namespace DeclSplit.CommandLine

inductive Tip where
  | similarOption (option : Text)
  | optionOf (command : Scope) (option : Text)
  | asValue (argument : Text)
  | asCommand (word : Text)
deriving DecidableEq, Repr

inductive UsageError where
  | nothingGiven
  | missingCommand
  | unknownCommand (scope : Scope) (word : Text) (similar : List Text)
  | missingPositional (scope : Scope) (used : List Parameter)
  | unexpected (scope : Scope) (argument : Text) (tip : Option Tip) (used : List Parameter)
  | unexpectedValue (scope : Scope) (option : Parameter) (value : Text) (used : List Parameter)
  | repeated (scope : Scope) (option : Parameter)
  | missingValue (parameter : Parameter)
  | badChoice (parameter : Parameter) (value : Text)
deriving DecidableEq, Repr

def inQuotes (text : Text) : Text := '\'' :: text ++ "'"

def Tip.line : Tip → Text
  | similarOption option => "  tip: a similar argument exists: " ++ inQuotes option
  | optionOf command option => "  tip: " ++ inQuotes (command.name ++ " " ++ option) ++ " exists"
  | asValue argument =>
    "  tip: to pass " ++ inQuotes argument ++ " as a value, use " ++ inQuotes ("-- " ++ argument)
  | asCommand word =>
    "  tip: subcommand " ++ inQuotes word ++ " exists; to use it, remove the '--' before it"

namespace UsageError

def commandTips : List Text → List Text
  | [] => []
  | [only] => [[], "  tip: a similar subcommand exists: " ++ inQuotes only]
  | several => [[], "  tip: some similar subcommands exist: " ++ Text.join ", " (several.map inQuotes)]

def choiceTips (p : Parameter) (value : Text) : List Text :=
  match Similarity.mostSimilar? value p.choices with
  | some choice => [[], "  tip: a similar value exists: " ++ inQuotes choice]
  | none => []

def choiceNotes (p : Parameter) : List Text :=
  if p.choices.isEmpty then [] else ["  " ++ p.choicesNote]

def complaint : UsageError → List Text
  | nothingGiven => []
  | missingCommand => [
      inQuotes Scope.program.name ++ " requires a subcommand but one was not provided",
      "  [subcommands: " ++ Text.join ", " (Scope.commands.map fun c => c.name) ++ "]"]
  | unknownCommand _ word similar => ("unrecognized subcommand " ++ inQuotes word) :: commandTips similar
  | missingPositional scope _ =>
    "the following required arguments were not provided:" ::
      scope.positionals.map fun p => "  " ++ p.shown
  | unexpected _ argument tip _ =>
    ("unexpected argument " ++ inQuotes argument ++ " found") ::
      (tip.map fun tip => [[], tip.line]).getD []
  | unexpectedValue _ option value _ => [
      "unexpected value " ++ inQuotes value ++ " for " ++ inQuotes option.shown ++
        " found; no more were expected"]
  | repeated _ option => ["the argument " ++ inQuotes option.shown ++ " cannot be used multiple times"]
  | missingValue p =>
    ("a value is required for " ++ inQuotes p.shown ++ " but none was supplied") :: choiceNotes p
  | badChoice p value =>
    ("invalid value " ++ inQuotes value ++ " for " ++ inQuotes p.shown) :: choiceNotes p ++ choiceTips p value

def usage? : UsageError → Option Text
  | nothingGiven | missingValue _ | badChoice .. => none
  | missingCommand => some (Scope.program.usageLine [])
  | unknownCommand scope .. | repeated scope _ => some (scope.usageLine [])
  | missingPositional scope used => some (scope.usageLine (used ++ scope.positionals))
  | unexpected scope _ _ used | unexpectedValue scope _ _ used => some (scope.usageLine used)

def helpNote : UsageError → List Text
  | unknownCommand .help .. => []
  | _ => [[], "For more information, try '--help'."]

def lines : UsageError → List Text
  | nothingGiven => Scope.program.helpLines
  | e =>
    match e.complaint with
    | [] => []
    | first :: more =>
      ("error: " ++ first) :: more ++ ((e.usage?.map fun usage => [[], usage]).getD [])
        ++ e.helpNote

end UsageError

end DeclSplit.CommandLine
