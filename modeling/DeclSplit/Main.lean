import DeclSplit.CommandLine.Report
import Std.Time.Format

/-!
The program: it runs on the files around it, prints its report and exits.
-/

namespace DeclSplit.Console

def failureNumber? : IO.Error → Option UInt32
  | .alreadyExists _ number _ | .noFileOrDirectory _ number _ | .invalidArgument _ number _
  | .permissionDenied _ number _ | .resourceExhausted _ number _ | .inappropriateType _ number _
  | .noSuchThing _ number _ | .interrupted _ number _ | .otherError number _ | .resourceBusy number _
  | .resourceVanished number _ | .unsupportedOperation number _ | .hardwareFault number _
  | .unsatisfiedConstraints number _ | .illegalOperation number _ | .protocolError number _
  | .timeExpired number _ => some number
  | .unexpectedEof | .userError _ => none

def fileError (e : IO.Error) : FileError :=
  match (failureNumber? e).map fun number => min number (0 - number) with
  | some 2 => .missing
  | some 17 => .exists_
  | some 20 => .notDirectory
  | some 21 => .isDirectory
  | some 36 => .nameTooLong
  | some 40 => .tooManyLinks
  | _ => .other (toString e)

def onPath {α : Type} (path : Path) (operation : String → IO α) : IO (Except FileError α) :=
  match path.os.text? with
  | none => return .error (.other "path is not text")
  | some text =>
    if text.contains '\x00' then return .error .nulInName
    else try return .ok (← operation (String.ofList text)) catch e => return .error (fileError e)

def exists_ (path : Path) : IO Bool := return (← onPath path fun name => IO.FS.realPath name).isOk

def isDirectory (path : Path) : IO Bool := do
  match ← onPath path fun name => do (← IO.FS.realPath name).isDir with
  | .ok answer => return answer
  | .error _ => return false

def readText (path : Path) : IO (Except FileError Text) := do
  match ← onPath path fun name => IO.FS.readBinFile name with
  | .error e => return .error e
  | .ok bytes =>
    match String.fromUTF8? bytes with
    | some text => return .ok text
    | none => return .error .notText

def makeDirectory (path : Path) : IO (Except FileError Unit) := onPath path fun name => IO.FS.createDir name

def makeDirectoriesAlong : List Path → IO (Except FileError Unit)
  | [] => return .ok ()
  | path :: above => do
    match ← makeDirectory path with
    | .ok () => return .ok ()
    | .error .missing =>
      match ← makeDirectoriesAlong above with
      | .error e => return .error e
      | .ok () => settle path (← makeDirectory path)
    | .error e => settle path (.error e)
where
  settle (path : Path) (made : Except FileError Unit) : IO (Except FileError Unit) := do
    if made.isOk || (← isDirectory path) then return .ok () else return made

def fileNames (path : Path) : IO (Except FileError (List OsText)) :=
  onPath path fun name => do
    let entries ← (← IO.FS.realPath name).readDir
    let files ← entries.filterM fun entry => return (← entry.path.symlinkMetadata).type == .file
    return files.toList.map fun entry => Text.os entry.fileName.toList

instance : FileAccess IO where
  exists_ := exists_
  readText := readText
  makeDirectories path := makeDirectoriesAlong (FileTree.ancestors path)
  writeText path text := onPath path fun name => IO.FS.writeFile name (String.ofList text)
  fileNames := fileNames

def timeStamp : IO Text := do
  let now := Std.Time.DateTime.ofTimestamp (← Std.Time.Timestamp.now) Std.Time.TimeZone.ZoneRules.UTC
  return now.format "uuuu-MM-dd'T'HH:mm:ss.SSSSSS'Z'"

def surroundings : IO CommandLine.Surroundings := do
  let dir ← IO.FS.realPath "."
  let setting ← IO.getEnv "TYPESPLIT_LOG"
  return ⟨dir.toString, setting.map String.toList, ← timeStamp⟩

end DeclSplit.Console

open DeclSplit in
def main (arguments : List String) : IO UInt32 := do
  let texts := arguments.map fun argument => Text.os argument.toList
  let report ← CommandLine.runProgram (← Console.surroundings) texts
  IO.eprint (String.ofList report.errorText)
  IO.print (String.ofList report.outputText)
  return report.exitCode.toUInt32
