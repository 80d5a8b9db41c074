import DeclSplit.CommandLine.Run
import DeclSplit.Json
import DeclSplit.Log.Filter

/-!
Reports: what is printed about a run, and the code that the program exits with.
-/

namespace DeclSplit

namespace DeclarationKind

def jsonName : DeclarationKind → String
  | typeAlias => "type_alias"
  | enum => "enum"
  | interface => "interface"

end DeclarationKind

def Span.toJson (span : Span) : Json := .object [("start", .number span.start), ("end", .number span.stop)]

def Declaration.toJson (d : Declaration) : Json := .object [
  ("name", .text d.name), ("kind", .text d.kind.jsonName), ("raw_text", .text d.rawText),
  ("is_exported", .flag d.isExported), ("span", d.span.toJson)]

def Declarations.toJson (all : Declarations) : Json := .list (all.emitted.map (·.toJson))

def SplitResult.fileJson? (file : Text × Path) : Option (Text × Json) :=
  file.2.os.text?.map fun text => (file.1, .text text)

def SplitResult.toJson? (result : SplitResult) : Option Json :=
  (result.files.mapM fileJson?).map fun files =>
    .object [("count", .number result.count), ("types", .object files)]

namespace CommandLine

structure Report where
  exitCode : Nat := 0
  output : List Text := []
  errors : List Text := []
deriving DecidableEq, Repr

namespace Report

def unlines (lines : List Text) : Text := lines.flatMap (· ++ ['\n'])

def outputText (report : Report) : Text := unlines report.output

def errorText (report : Report) : Text := unlines report.errors

end Report

structure Surroundings where
  currentDirectory : Path
  logSetting : Option Text
  time : Text

def Invocation.logFilter (invocation : Invocation) (around : Surroundings) : LogFilter :=
  if invocation.debug then .verbose else .ofSetting around.logSetting

def failureLine (message : Text) (cause : Option FileError) : Text :=
  "Error: " ++ Text.join ": " (message :: cause.toList.map fun cause => cause.message)

def splitFailure (e : SplitError) : List Text :=
  failureLine e.message e.cause? ::
    if e.isOutputError then ["Files written before the failure were left in place."] else []

def bullet (text : Text) : Text := "- " ++ text

def named (heading : String) (names : List Text) : List Text := heading :: names.map bullet

def announcements (around : Surroundings) (events : List SplitEvent) : List Text :=
  events.filterMap fun
    | .directory dir true =>
      some ("Creating directory: " ++ ((dir.absolute? around.currentDirectory).getD dir).text)
    | _ => none

def resultLines (result : SplitResult) : List Text :=
  ("Processed " ++ Text.ofNat result.count ++ " items (types, enums, interfaces).") ::
    result.files.map fun (name, path) => bullet (name ++ ": " ++ path.text)

def told? (json : Bool) (result : SplitResult) : Option (List Text) :=
  if json then result.toJson?.map fun document => [document.write] else some (resultLines result)

def untellable : Text := failureLine "path contains invalid UTF-8 characters" none

def declarationLine (d : Declaration) : Text :=
  bullet (d.kind.word ++ " " ++ d.name ++ (if d.isExported then " (exported)" else "") ++
    " [" ++ Text.ofNat d.span.start ++ ".." ++ Text.ofNat d.span.stop ++ "]")

def listLines (all : Declarations) : List Text :=
  ("Found " ++ Text.ofNat all.size ++ " items (types, enums, interfaces).") :: all.emitted.map declarationLine

namespace SplitAttempt

def report (around : Surroundings) (filter : LogFilter) (json : Bool) : SplitAttempt → Report
  | noDirectory => ⟨0, [], ["Error: Please specify the output directory with --migrate"]⟩
  | unlisted dir cause => ⟨1, [], [failureLine ("failed to list " ++ dir.text) cause]⟩
  | inTheWay names => ⟨0, named "The following files already exist and will not be overwritten:" names, []⟩
  | tried replaceable outcome =>
    let before :=
      (if replaceable.isEmpty then [] else named "Overwriting the following files:" replaceable) ++
        (if json then [] else announcements around outcome.events)
    let log := filter.lines around.time outcome.events
    match outcome.result with
    | .error e => ⟨1, before, log ++ splitFailure e⟩
    | .ok result =>
      match told? json result with
      | some lines => ⟨0, before ++ lines, log⟩
      | none => ⟨1, before, log ++ [untellable]⟩

end SplitAttempt

namespace RunResult

def report (around : Surroundings) (filter : LogFilter) : RunResult → Report
  | badConfig cause => ⟨1, [], [failureLine ("failed to load " ++ Config.fileName ++ ": " ++ cause.message) none]⟩
  | created json attempt => attempt.report around filter json
  | listed json outcome =>
    let log := filter.lines around.time outcome.events
    match outcome.result with
    | .error e => ⟨1, [], log ++ splitFailure e⟩
    | .ok all => ⟨0, if json then [all.toJson.write] else listLines all, log⟩

end RunResult

namespace UsageError

def report (e : UsageError) : Report := ⟨2, [], e.lines⟩

end UsageError

variable {m : Type → Type} [Monad m] [FileAccess m]

namespace Request

def answer (around : Surroundings) : Request → m Report
  | run invocation => do return (← invocation.run).report around (invocation.logFilter around)
  | help scope => return ⟨0, scope.helpLines, []⟩
  | version => return ⟨0, [versionLine], []⟩

end Request

def runProgram (around : Surroundings) (arguments : List OsText) : m Report :=
  match parse arguments with
  | .error e => return e.report
  | .ok request => request.answer around

end CommandLine

end DeclSplit
