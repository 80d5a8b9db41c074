import DeclSplit.Files.Resolution

/-!
Operations on a file tree, by path.
-/

namespace DeclSplit.FileTree

def entryAt (tree : FileTree) (path : Path) : Except FileError Entry := do
  match tree.find? (← tree.resolve path) with
  | some entry => return entry
  | none => throw .missing

def exists_ (tree : FileTree) (path : Path) : Bool := (tree.entryAt path).isOk

def isDirectory (tree : FileTree) (path : Path) : Bool :=
  match tree.entryAt path with
  | .ok .directory => true
  | _ => false

def readText (tree : FileTree) (path : Path) : Except FileError Text := do
  match ← tree.entryAt path with
  | .file (.text chars) => return chars
  | .file (.undecodable _) => throw .notText
  | _ => throw .isDirectory

def writable (tree : FileTree) (path : Path) : Except FileError Location := do
  let location ← tree.resolve path true
  match tree.find? location with
  | some .directory => throw .isDirectory
  | _ => return location

def write (tree : FileTree) (path : Path) (contents : Contents) : Except FileError FileTree := do
  return tree.put (← tree.writable path) (.file contents)

def vacant (tree : FileTree) (path : Path) : Except FileError Location := do
  match ← tree.resolveParent path with
  | (_, none) => throw .exists_
  | (dir, some name) =>
    if longestName < name.byteLength then throw .nameTooLong
    if (tree.find? (dir ++ [name])).isSome then throw .exists_
    return dir ++ [name]

def makeDirectory (tree : FileTree) (path : Path) : Except FileError FileTree := do
  return tree.put (← tree.vacant path) .directory

/-- Creates a link; a slash at the end of its path asks for a directory, which it would not be. -/
def makeLink (tree : FileTree) (path target : Path) : Except FileError FileTree := do
  if target.os.contains (.char '\x00') || path.os.contains (.char '\x00') then throw .nulInName
  checkPath target
  let location ← tree.vacant path
  if path.os.getLast? = some .slash then throw .missing
  return tree.put location (.link target)

/-- Creates a directory and those above it that are missing, from the path that names the directory on to those
that name the ones above it.  What was created stays when a later step fails. -/
def makeDirectoriesAlong (tree : FileTree) : List Path → Except FileError Unit × FileTree
  | [] => (.ok (), tree)
  | path :: above =>
    match tree.makeDirectory path with
    | .ok made => (.ok (), made)
    | .error .missing =>
      match makeDirectoriesAlong tree above with
      | (.error e, made) => (.error e, made)
      | (.ok (), made) =>
        match made.makeDirectory path with
        | .ok done => (.ok (), done)
        | .error e => (if made.isDirectory path then .ok () else .error e, made)
    | .error e => (if tree.isDirectory path then .ok () else .error e, tree)

def ancestors (path : Path) : List Path :=
  if path.os.isEmpty then [] else path :: path.parents

def makeDirectories (tree : FileTree) (path : Path) : Except FileError Unit × FileTree :=
  makeDirectoriesAlong tree (ancestors path)

def fileNames (tree : FileTree) (path : Path) : Except FileError (List OsText) := do
  let dir ← tree.resolve path
  match tree.find? dir with
  | none => throw .missing
  | some .directory =>
    return tree.entries.filterMap fun (location, entry) =>
      match entry, location.getLast? with
      | .file _, some name => if location.dropLast = dir then some name else none
      | _, _ => none
  | some _ => throw .notDirectory

def remove (tree : FileTree) (path : Path) : Except FileError FileTree := do
  match ← tree.resolveParent path with
  | (dir, none) => return tree.erase dir
  | (dir, some name) =>
    if longestName < name.byteLength then throw .nameTooLong
    match tree.find? (dir ++ [name]) with
    | none => throw .missing
    | some _ => return tree.erase (dir ++ [name])

end DeclSplit.FileTree
