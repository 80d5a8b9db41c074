import DeclSplit.Declaration

/-!
Declarations grouped by kind, each group in the order of discovery.  Files are emitted enums first; names are
looked up aliases first.
-/

namespace DeclSplit

structure Declarations where
  aliases : List Declaration := []
  enums : List Declaration := []
  interfaces : List Declaration := []
deriving DecidableEq, Repr

namespace Declarations

def push (all : Declarations) (d : Declaration) : Declarations :=
  match d.kind with
  | .typeAlias => { all with aliases := all.aliases ++ [d] }
  | .enum => { all with enums := all.enums ++ [d] }
  | .interface => { all with interfaces := all.interfaces ++ [d] }

def ofList (ds : List Declaration) : Declarations := ds.foldl push {}

def size (all : Declarations) : Nat := all.aliases.length + all.enums.length + all.interfaces.length

def isEmpty (all : Declarations) : Bool := all.size == 0

def emitted (all : Declarations) : List Declaration := all.enums ++ all.aliases ++ all.interfaces

def lookedUp (all : Declarations) : List Declaration := all.aliases ++ all.enums ++ all.interfaces

@[simp] theorem length_emitted (all : Declarations) : all.emitted.length = all.size := by
  simp [emitted, size]
  omega

end Declarations

end DeclSplit
