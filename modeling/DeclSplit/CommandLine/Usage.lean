import DeclSplit.CommandLine.Parameter

/-!
Usage and help texts.
-/

namespace DeclSplit.CommandLine

namespace Scope

def usage (scope : Scope) (used : List Parameter) : Text :=
  let options := used.filter (·.isOption)
  let general : List Text :=
    if used.isEmpty && scope.parameters.any (·.isOption) then ["[OPTIONS]"] else options.map (·.shown)
  let command : List Text := if scope = program then ["<COMMAND>"] else []
  Text.join " " (scope.call :: general ++ command ++ scope.positionals.map (·.shown))

def usageLine (scope : Scope) (used : List Parameter) : Text := "Usage: " ++ scope.usage used

def table (rows : List (Text × Text)) : List Text :=
  let width := rows.foldl (fun width row => max width row.1.length) 0
  rows.map fun (left, right) => "  " ++ left ++ List.replicate (width + 2 - left.length) ' ' ++ right

def optionEntry (p : Parameter) : Text :=
  match p.short? with
  | some letter => '-' :: letter :: ", " ++ p.shown
  | none => "    " ++ p.shown

def explanation (scope : Scope) (p : Parameter) : Text :=
  if p.choices.isEmpty then p.about scope else p.about scope ++ " " ++ p.choicesNote

def helpPart (heading : String) (rows : List (Text × Text)) : List Text :=
  if rows.isEmpty then [] else [] :: (heading ++ ":") :: table rows

def helpLines (scope : Scope) : List Text :=
  let subcommands : List (Text × Text) :=
    if scope = program then commands.map fun c => (c.name, c.about) else []
  let head : List Text := [scope.about, [], scope.usageLine []]
  head ++
    helpPart "Commands" subcommands ++
    helpPart "Arguments" (scope.positionals.map fun p => (p.shown, scope.explanation p)) ++
    helpPart "Options" ((scope.parameters.filter (·.isOption)).map fun p =>
      (optionEntry p, scope.explanation p))

end Scope

def versionLine : Text := Scope.program.name ++ " 0.1.0"

end DeclSplit.CommandLine
