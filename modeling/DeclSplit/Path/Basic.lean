import DeclSplit.Text.OsText

/-!
Paths are texts with slashes between their components.  Components that are empty or a single dot lead
nowhere and do not count, unless such a dot begins a path.
-/

namespace DeclSplit

structure Path where
  ofOs ::
  os : OsText
deriving DecidableEq, Repr

namespace Path

def mk (text : Text) : Path := ⟨text⟩

instance : Coe String Path := ⟨fun s => mk s⟩

def text (path : Path) : Text := path.os.shown

def isAbsolute (path : Path) : Bool := path.os.head? == some .slash

def components (path : Path) : List OsText :=
  (Text.pieces .slash path.os).filter fun piece => !piece.isEmpty && piece ≠ "."

/-- The path of something inside a directory: a slash goes between the two unless the directory is empty or
ends in one already.  An absolute path stays as it is. -/
def join (dir : Path) (inside : OsText) : Path :=
  if inside.head? = some .slash then ⟨inside⟩
  else if dir.os.isEmpty || dir.os.getLast? = some .slash then ⟨dir.os ++ inside⟩
  else ⟨dir.os ++ .slash :: inside⟩

def ofComponents (absolute : Bool) (components : List OsText) : Path :=
  ⟨if absolute then .slash :: Text.joined .slash components else Text.joined .slash components⟩

def parents (path : Path) : List Path :=
  ((List.range' 1 (path.components.length - 1)).map fun n =>
    ofComponents path.isAbsolute (path.components.take n)).reverse

def fileName? (path : Path) : Option OsText :=
  path.components.getLast?.filter (· ≠ "..")

def splitExtension (name : OsText) : OsText × Option OsText :=
  if name = ".." then (name, none) else
  match (Text.pieces (.char '.') name).reverse with
  | [] | [_] => (name, none)
  | extension :: before =>
    let stem := Text.joined (.char '.') before.reverse
    if stem.isEmpty then (name, none) else (stem, some extension)

def stem? (path : Path) : Option OsText := path.fileName?.map fun name => (splitExtension name).1

def extension? (path : Path) : Option OsText := path.fileName?.bind fun name => (splitExtension name).2

/-- Exactly two slashes may mean a root of its own; any other number of them means the root. -/
def root : OsText → Path
  | [.slash, .slash] => "//"
  | .slash :: .slash :: c :: _ => if c = .slash then "/" else "//"
  | _ => "/"

def absolute? (path : Path) (dir : Path) : Option Path :=
  if path.os.isEmpty then none else
  let start := if path.isAbsolute then root path.os else dir
  let base := path.components.foldl join start
  some (if path.os.getLast? = some .slash then base.join [] else base)

end Path

end DeclSplit
