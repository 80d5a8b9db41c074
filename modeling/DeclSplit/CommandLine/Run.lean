import DeclSplit.CommandLine.Arguments
import DeclSplit.Config.Load
import DeclSplit.Split.Conflicts
import DeclSplit.Split.Process

/-!
Running a command: what it does to files.  How its result is told does not matter here.
-/

namespace DeclSplit.CommandLine

inductive SplitAttempt where
  | noDirectory
  | unlisted (dir : Path) (cause : FileError)
  | inTheWay (names : List Text)
  | tried (replaceable : List Text) (outcome : Outcome SplitResult)

inductive RunResult where
  | badConfig (cause : ConfigError)
  | created (json : Bool) (result : SplitAttempt)
  | listed (json : Bool) (outcome : Outcome Declarations)

variable {m : Type → Type} [Monad m] [FileAccess m]

def splitInto (input : Path) (dir : Option Path) (options : SplitOptions) : m SplitAttempt := do
  match dir with
  | none => return .noDirectory
  | some dir =>
    match ← existingOutputs dir (options.extensionFor input) with
    | .error cause => return .unlisted dir cause
    | .ok names =>
      if !names.isEmpty && !options.overwrite then return .inTheWay names
      else return .tried names (← splitFile input (some dir) options)

def Command.run (config : Config) : Command → m RunResult
  | .create input output overwrite mode json => do
    let options : SplitOptions :=
      ⟨overwrite || config.overwrite.getD false, (mode.or config.mode).getD default, config.extension⟩
    return .created json (← splitInto input (output.or (config.output.map Path.mk)) options)
  | .list input json => return .listed json (← Declarations.load input)

def Invocation.run (invocation : Invocation) : m RunResult := do
  match ← Config.loadOrDefault with
  | .error cause => return .badConfig cause
  | .ok config => invocation.command.run config

end DeclSplit.CommandLine
