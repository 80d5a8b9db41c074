import DeclSplit.Reference
import DeclSplit.Text.OsText

/-!
The parts of a command line: the commands, and what may be given to each.
-/

namespace DeclSplit.CommandLine

inductive Scope where
  | program | create | list | help
deriving DecidableEq, Repr

inductive Parameter where
  | debug
  | help
  | version
  | output
  | overwrite
  | mode
  | json
  | input
  | commands
deriving DecidableEq, Repr

namespace Scope

def name : Scope → String
  | program => "typesplit"
  | create => "create"
  | list => "list"
  | help => "help"

def call : Scope → Text
  | program => program.name
  | scope => program.name ++ " " ++ scope.name

def commands : List Scope := [create, list, help]

def ofName? (word : OsText) : Option Scope := commands.find? fun scope => word = scope.name

def parameters : Scope → List Parameter
  | program => [.debug, .help, .version]
  | create => [.input, .debug, .output, .overwrite, .mode, .json, .help]
  | list => [.input, .debug, .json, .help]
  | help => [.commands]

def about : Scope → String
  | program => "Split TypeScript types, enums and interfaces into one file each"
  | create => "Split the declarations of a file into a directory"
  | list => "List the declarations a file would be split into, without writing anything"
  | help => "Print this message or the help of the given subcommand(s)"

end Scope

namespace Parameter

def long? : Parameter → Option String
  | debug => some "debug"
  | help => some "help"
  | version => some "version"
  | output => some "migrate"
  | overwrite => some "overwrite"
  | mode => some "match"
  | json => some "json"
  | input | commands => none

def short? : Parameter → Option Char
  | debug => some 'd'
  | help => some 'h'
  | version => some 'V'
  | output | overwrite | mode | json | input | commands => none

def placeholder? : Parameter → Option String
  | output => some "<DIR>"
  | mode => some "<MATCH_MODE>"
  | input => some "<FILENAME>"
  | commands => some "[COMMAND]..."
  | debug | help | version | overwrite | json => none

def choices : Parameter → List Text
  | mode => [MatchMode.substring.spelling, MatchMode.word.spelling]
  | _ => []

def isOption (p : Parameter) : Bool := p.long?.isSome

def shown (p : Parameter) : Text :=
  let names : List String := (p.long?.map fun long => "--" ++ long).toList ++ p.placeholder?.toList
  Text.join " " (names.map String.toList)

def choicesNote (p : Parameter) : Text := "[possible values: " ++ Text.join ", " p.choices ++ "]"

def about : Parameter → Scope → String
  | debug, _ => "Enable verbose debug logging (or set TYPESPLIT_LOG=debug)"
  | help, _ => "Print help"
  | version, _ => "Print version"
  | output, _ => "Migrate types to the specified directory"
  | overwrite, _ => "Overwrite existing files"
  | mode, _ => "How declaration names are matched when inferring imports"
  | json, .list => "Print the declarations as JSON"
  | json, _ => "Print the result as JSON"
  | input, .list => "TypeScript file to inspect"
  | input, _ => "TypeScript file to split"
  | commands, _ => "Print help for the subcommand(s)"

end Parameter

namespace Scope

def ofLong? (scope : Scope) (name : OsText) : Option Parameter :=
  scope.parameters.find? fun p => p.long?.any fun long => name = long

def ofShort? (scope : Scope) (letter : Char) : Option Parameter :=
  scope.parameters.find? fun p => p.short? = some letter

def positionals (scope : Scope) : List Parameter := scope.parameters.filter (!·.isOption)

def longs (scope : Scope) : List Text := scope.parameters.filterMap fun p => p.long?.map String.toList

end Scope

end DeclSplit.CommandLine
