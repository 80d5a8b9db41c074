import DeclSplit.Files.Access
import DeclSplit.Plan
import DeclSplit.Split.Source

/-!
Splitting a source: reading its declarations and writing one file for each.
-/

namespace DeclSplit

structure SplitResult where
  count : Nat
  files : List (Text × Path)
deriving DecidableEq, Repr

def noteFile (name : Text) (path : Path) : List (Text × Path) → List (Text × Path)
  | [] => [(name, path)]
  | (other, old) :: rest =>
    if other = name then (name, path) :: rest else (other, old) :: noteFile name path rest

namespace Outcome

variable {m : Type → Type} [Monad m] {α β : Type}

def andThenM (first : Outcome α) (next : α → m (Outcome β)) : m (Outcome β) :=
  match first.result with
  | .error e => return ⟨first.events, .error e⟩
  | .ok a => do
    let rest ← next a
    return ⟨first.events ++ rest.events, rest.result⟩

end Outcome

variable {m : Type → Type} [Monad m] [FileAccess m]

def writeFiles : List PlannedFile → List (Text × Path) → m (Outcome (List (Text × Path)))
  | [], written => return ⟨[], .ok written⟩
  | file :: rest, written => do
    match ← FileAccess.writeText file.path file.contents with
    | .error e => return ⟨[], .error (.writeFile file.path e)⟩
    | .ok () =>
      let later ← writeFiles rest (noteFile file.declaration.name file.path written)
      return ⟨.wrote file.declaration file.path file.imports :: later.events, later.result⟩

namespace Declarations

def write (all : Declarations) (input : Path) (dir : Option Path) (options : SplitOptions) :
    m (Outcome SplitResult) :=
  match dir with
  | none => return ⟨[], .ok ⟨all.size, []⟩⟩
  | some dir => do
    let created := !(← FileAccess.exists_ dir)
    match ← FileAccess.makeDirectories dir with
    | .error e => return ⟨[], .error (.createDirectory dir e)⟩
    | .ok () =>
      let outcome ← writeFiles (all.plan dir (options.extensionFor input) options.mode) []
      return ⟨.directory dir created :: outcome.events, outcome.result.map fun files => ⟨all.size, files⟩⟩

def load (input : Path) : m (Outcome Declarations) := do
  match ← FileAccess.readText input with
  | .error e => return ⟨[], .error (.inputRead input e)⟩
  | .ok source => return ofSource source input

end Declarations

def splitSource (source : Text) (input : Path) (dir : Option Path) (options : SplitOptions) :
    m (Outcome SplitResult) :=
  (Declarations.ofSource source input).andThenM fun all => all.write input dir options

def splitFile (input : Path) (dir : Option Path) (options : SplitOptions) : m (Outcome SplitResult) := do
  (← Declarations.load input).andThenM fun all => all.write input dir options

end DeclSplit
