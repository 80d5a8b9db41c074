import DeclSplit.Files.Tree

/-!
Resolution: where a path leads in a file tree.  Every directory on the way must exist; links are followed, but
no more than forty of them.
-/

namespace DeclSplit.FileTree

def longestName : Nat := 255

def longestPath : Nat := 4095

def mostLinks : Nat := 40

def here : OsText := "."

def above : OsText := ".."

/-- The names on a path.  A slash at the end asks for a directory, and an empty name stands for it. -/
def steps (path : Path) : List OsText :=
  let names := (Text.pieces .slash path.os).filter (!·.isEmpty)
  if path.os.getLast? = some .slash then names ++ [[]] else names

def origin (path : Path) (dir : Location) : Location := if path.isAbsolute then [] else dir

/-- Follows names down from a directory.  The last name may lead to nothing; on a link, `follow` goes on from
the directory that the link stands in.  To write a file, no slash may stand at the end. -/
def walk (tree : FileTree) (toWrite : Bool) (follow : Location → List OsText → Except FileError Location) :
    Location → List OsText → Except FileError Location
  | dir, [] => .ok dir
  | dir, name :: rest =>
    if name = here || name.isEmpty then walk tree toWrite follow dir rest
    else if name = above then walk tree toWrite follow dir.dropLast rest
    else if toWrite && rest = [[]] then .error .isDirectory
    else if longestName < name.byteLength then .error .nameTooLong
    else match tree.find? (dir ++ [name]) with
      | none => if rest.isEmpty then .ok (dir ++ [name]) else .error .missing
      | some .directory => walk tree toWrite follow (dir ++ [name]) rest
      | some (.file _) => if rest.isEmpty then .ok (dir ++ [name]) else .error .notDirectory
      | some (.link target) => follow (origin target dir) (steps target ++ rest)

def follow (tree : FileTree) (toWrite : Bool) : Nat → Location → List OsText → Except FileError Location
  | 0 => walk tree toWrite fun _ _ => .error .tooManyLinks
  | links + 1 => walk tree toWrite (follow tree toWrite links)

def checkPath (path : Path) : Except FileError Unit :=
  if path.os.contains (.char '\x00') then .error .nulInName
  else if path.os.isEmpty then .error .missing
  else if longestPath < path.os.byteLength then .error .nameTooLong
  else .ok ()

def resolve (tree : FileTree) (path : Path) (toWrite : Bool := false) : Except FileError Location := do
  checkPath path
  follow tree toWrite mostLinks (origin path []) (steps path)

/-- The directory that a path leads into, and the last name on it, which is not looked at; the name is absent
where the path ends in a dot, in two, or at the root. -/
def resolveParent (tree : FileTree) (path : Path) : Except FileError (Location × Option OsText) := do
  checkPath path
  let names := (Text.pieces .slash path.os).filter (!·.isEmpty)
  let dir ← follow tree false mostLinks (origin path []) (names.dropLast ++ [here])
  let last := names.getLast?.filter fun name => name ≠ here && name ≠ above
  return (dir, last)

end DeclSplit.FileTree
