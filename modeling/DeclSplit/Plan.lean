import DeclSplit.Path.Flavour
import DeclSplit.Rendering

/-!
Plans: the files that a set of declarations is split into, in the order in which they are written.
-/

namespace DeclSplit

structure PlannedFile where
  declaration : Declaration
  path : Path
  contents : Text
  imports : Nat
deriving DecidableEq, Repr

def fileName (name extension : Text) : Text := name ++ '.' :: extension

namespace Declarations

def planFile (all : Declarations) (dir : Path) (extension : Text) (mode : MatchMode) (d : Declaration) :
    PlannedFile :=
  let rendering := d.render all mode
  ⟨d, dir.join (fileName d.name extension), rendering.contents, rendering.imports⟩

def plan (all : Declarations) (dir : Path) (extension : Text) (mode : MatchMode) : List PlannedFile :=
  all.emitted.map (all.planFile dir extension mode)

end Declarations

structure SplitOptions where
  overwrite : Bool := false
  mode : MatchMode := default
  extension : Option Text := none
deriving DecidableEq, Repr

def SplitOptions.extensionFor (options : SplitOptions) (input : Path) : Text :=
  match options.extension.map (List.dropWhile (· = '.')) with
  | some (c :: r) => c :: r
  | _ => input.outputExtension

end DeclSplit
