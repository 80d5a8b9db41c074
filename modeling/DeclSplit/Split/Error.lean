import DeclSplit.Files.Error
import DeclSplit.Path.Basic
import DeclSplit.Syntax.Diagnostic

/-!
Why a source could not be split.
-/

namespace DeclSplit

inductive SplitError where
  | inputRead (path : Path) (cause : FileError)
  | unreadable (path : Path) (faults : List Diagnostic)
  | noDeclarations
  | createDirectory (path : Path) (cause : FileError)
  | writeFile (path : Path) (cause : FileError)
deriving DecidableEq, Repr

namespace SplitError

def isOutputError : SplitError → Bool
  | createDirectory .. | writeFile .. => true
  | _ => false

def cause? : SplitError → Option FileError
  | inputRead _ cause | createDirectory _ cause | writeFile _ cause => some cause
  | unreadable .. | noDeclarations => none

def message : SplitError → Text
  | inputRead path cause => "failed to read " ++ path.text ++ ": " ++ cause.message
  | unreadable path faults =>
    "failed to parse " ++ path.text ++ ": " ++ Text.join "; " (faults.map fun f => f.message)
  | noDeclarations => "No types, enums, or interfaces found."
  | createDirectory path cause => "failed to create directory " ++ path.text ++ ": " ++ cause.message
  | writeFile path cause => "failed to write " ++ path.text ++ ": " ++ cause.message

end SplitError

end DeclSplit
