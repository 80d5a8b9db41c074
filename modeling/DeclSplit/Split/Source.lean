import DeclSplit.Classification
import DeclSplit.Path.Flavour
import DeclSplit.Split.Event

/-!
The declarations of a source text.
-/

namespace DeclSplit

structure ParsedSource where
  declarations : Declarations
  diagnostics : List Diagnostic
deriving DecidableEq, Repr

namespace ParsedSource

def read (source : Text) (path : Path) : Except SplitError ParsedSource :=
  let program := Program.parse path.dialect source
  if program.readable then .ok ⟨program.declarations source, program.diagnostics⟩
  else .error (.unreadable path program.diagnostics)

end ParsedSource

def Declarations.ofSource (source : Text) (path : Path) : Outcome Declarations :=
  match ParsedSource.read source path with
  | .error e => ⟨[], .error e⟩
  | .ok parsed =>
    let faults := parsed.diagnostics.map (SplitEvent.diagnostic path)
    if parsed.declarations.isEmpty then ⟨faults, .error .noDeclarations⟩
    else ⟨faults ++ [.found parsed.declarations.size], .ok parsed.declarations⟩

end DeclSplit
