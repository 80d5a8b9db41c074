import DeclSplit.Text.Basic
import DeclSplit.Text.Span
import DeclSplit.Toml.Number

/-!
Items: what the keys of a configuration stand for, each with the stretch of the text that it comes from.
-/

namespace DeclSplit.Toml

structure Key where
  name : Text
  span : Span
deriving DecidableEq, Repr

inductive TableForm where
  | declared
  | passed
  | dotted
  | inline
  | inlineDotted
deriving DecidableEq, Repr

namespace TableForm

def isInline : TableForm → Bool
  | inline | inlineDotted => true
  | _ => false

def isDotted : TableForm → Bool
  | dotted | inlineDotted => true
  | _ => false

def isOpen : TableForm → Bool
  | passed | dotted | inlineDotted => true
  | _ => false

end TableForm

inductive Item where
  | string (value : Text) (span : Span)
  | integer (value : Int) (span : Span)
  | float (value : Float64) (span : Span)
  | boolean (value : Bool) (span : Span)
  | moment (span : Span)
  | array (elements : List Item) (span : Span)
  | tables (elements : List Item)
  | table (form : TableForm) (entries : List (Key × Item)) (span : Option Span)
deriving Repr

abbrev Entries := List (Key × Item)

namespace Item

def kind : Item → String
  | string .. => "string"
  | integer .. => "integer"
  | float .. => "float"
  | boolean .. => "boolean"
  | moment .. => "datetime"
  | array .. => "array"
  | tables .. => "array of tables"
  | table form .. => if form.isInline then "inline table" else "table"

def ownSpan? : Item → Option Span
  | string _ span | integer _ span | float _ span | boolean _ span | moment span | array _ span => some span
  | table _ _ span => span
  | tables _ => none

def span? : Item → Option Span
  | tables elements => do
    let first ← (← elements.head?).ownSpan?
    let last ← (← elements.getLast?).ownSpan?
    return ⟨first.start, last.stop⟩
  | item => item.ownSpan?

end Item

namespace Entries

def item? (name : Text) : Entries → Option Item
  | [] => none
  | (key, item) :: rest => if key.name = name then some item else item? name rest

def alter (key : Key) (fresh : Item) (change : Item → Except Cause Item) : Entries → Except Cause Entries
  | [] => return [(key, ← change fresh)]
  | (other, item) :: rest => do
    if other.name = key.name then return (other, ← change item) :: rest
    else return (other, item) :: (← alter key fresh change rest)

def remove (name : Text) : Entries → Entries := List.filter fun (key, _) => key.name ≠ name

end Entries

end DeclSplit.Toml
