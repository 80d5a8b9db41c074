import DeclSplit.Files.Error
import DeclSplit.Path.Basic
import DeclSplit.Text.Bytes

/-!
File trees: what stands at each location below a root directory.  A location is the list of names from the
root down to an entry.  An entry is found by its location, and putting one in place leaves all others as they
are (`find?_put`, `find?_put_of_ne`).
-/

namespace DeclSplit

inductive Contents where
  | text (chars : Text)
  | undecodable (bytes : List UInt8)
deriving DecidableEq, Repr

inductive Entry where
  | file (contents : Contents)
  | directory
  | link (target : Path)
deriving DecidableEq, Repr

abbrev Location := List OsText

-- The names on the way to an entry, as they are shown.
instance : CoeHead Location (List Text) := ⟨List.map OsText.shown⟩

structure FileTree where
  entries : List (Location × Entry)
deriving DecidableEq, Repr

namespace FileTree

def empty : FileTree := ⟨[]⟩

def lookup (location : Location) : List (Location × Entry) → Option Entry
  | [] => none
  | (other, entry) :: rest => if other = location then some entry else lookup location rest

def find? (tree : FileTree) : Location → Option Entry
  | [] => some .directory
  | location => lookup location tree.entries

def replace (location : Location) (entry : Entry) : List (Location × Entry) → List (Location × Entry)
  | [] => [(location, entry)]
  | (other, old) :: rest =>
    if other = location then (location, entry) :: rest else (other, old) :: replace location entry rest

def put (tree : FileTree) (location : Location) (entry : Entry) : FileTree :=
  ⟨replace location entry tree.entries⟩

def erase (tree : FileTree) (location : Location) : FileTree :=
  ⟨tree.entries.filter fun (other, _) => !location.isPrefixOf other⟩

theorem lookup_replace (location : Location) (entry : Entry) (entries : List (Location × Entry)) :
    lookup location (replace location entry entries) = some entry := by
  induction entries with
  | nil => simp [replace, lookup]
  | cons e r ih => by_cases h : e.1 = location <;> simp [replace, lookup, h, ih]

theorem lookup_replace_of_ne {location other : Location} (ne : other ≠ location) (entry : Entry)
    (entries : List (Location × Entry)) :
    lookup other (replace location entry entries) = lookup other entries := by
  induction entries with
  | nil => simp [replace, lookup, Ne.symm ne]
  | cons e r ih =>
    by_cases h : e.1 = location
    · simp [replace, lookup, h, Ne.symm ne]
    · by_cases ho : e.1 = other
      · subst ho
        simp [replace, lookup, h]
      · simp [replace, lookup, h, ho, ih]

theorem find?_put (tree : FileTree) {location : Location} (below : location ≠ []) (entry : Entry) :
    (tree.put location entry).find? location = some entry := by
  cases location with
  | nil => exact absurd rfl below
  | cons n r => exact lookup_replace _ _ _

theorem find?_put_of_ne (tree : FileTree) {location other : Location} (ne : other ≠ location) (entry : Entry) :
    (tree.put location entry).find? other = tree.find? other := by
  cases other with
  | nil => rfl
  | cons n r => exact lookup_replace_of_ne ne _ _

end FileTree

end DeclSplit
