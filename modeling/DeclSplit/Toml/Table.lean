import DeclSplit.Text.Quoted
import DeclSplit.Toml.Item

/-!
Growing tables: what a header or a dotted key adds to the tables that there are, and when it may not.
-/

namespace DeclSplit.Toml

def Key.spelling (key : Key) : Text :=
  let isBare (c : Char) : Bool := c.val < 128 && (c.isAlphanum || c = '-' || c = '_')
  if !key.name.isEmpty && key.name.all isBare then key.name
  else if key.name.all Reader.isPlain then "\"" ++ key.name ++ "\""
  else if key.name.all Reader.isLiteral then "'" ++ key.name ++ "'"
  else Text.quoted key.name

def Item.onTable (change : TableForm → Entries → Option Span → Except Cause Item) :
    Item → Except Cause Item
  | .table form entries span => change form entries span
  | .tables elements =>
    match elements.reverse with
    | .table form entries span :: earlier => do
      return .tables ((← change form entries span) :: earlier).reverse
    | _ => .ok (.tables elements)
  | item => .ok item

namespace Entries

/-- Changes the table that a way of keys leads to, in an array of tables the last one; steps that are missing
become tables.  `gone` is the way gone so far. -/
def descend (missing : TableForm) (change : TableForm → Entries → Except Cause Entries) :
    (form : TableForm) → (gone : List Text) → List Key → Entries → Except Cause Entries
  | form, _, [], entries => change form entries
  | _, gone, key :: way, entries =>
    let gone := gone ++ [key.name]
    let enter (item : Item) : Except Cause Item := item.onTable fun form inner span => do
      return .table form (← descend missing change form gone way inner) span
    entries.alter key (.table missing [] none) fun item =>
      match item with
      | .table form _ _ =>
        if form.isInline && !missing.isInline then .error (.notTable gone item.kind)
        else if missing.isDotted && !form.isOpen then .error (.duplicateKey key.name none)
        else enter item
      | .tables _ => enter item
      | _ => .error (.notTable gone item.kind)

/-- Adds a value under a dotted key.  The last step must be a table that dotted keys have made, unless there is
no step at all.  `table` names the table in a report. -/
def assign (missing : TableForm) (table : Option (List Text)) (form : TableForm) (way : List Key) (key : Key)
    (value : Item) (entries : Entries) : Except Cause Entries :=
  descend missing
    (fun form entries =>
      if form.isDotted && way.isEmpty || !form.isDotted && !way.isEmpty then
        .error (.duplicateKey key.name none)
      else if (entries.item? key.name).isSome then .error (.duplicateKey key.name table)
      else .ok (entries ++ [(key, value)]))
    form [] way entries

def taken (way : List Key) (key : Key) : Cause := .duplicateKey key.spelling (some (way.map Key.name))

def openTable (way : List Key) (key : Key) (span : Span) : Entries → Except Cause Entries :=
  descend .passed
    (fun _ entries =>
      match entries.item? key.name with
      | none => .ok (entries ++ [(key, .table .declared [] (some span))])
      | some (.table .passed inner _) =>
        .ok (entries.remove key.name ++ [(key, .table .declared inner (some span))])
      | some _ => .error (taken way key))
    .declared [] way

def openElement (way : List Key) (key : Key) (span : Span) : Entries → Except Cause Entries :=
  descend .passed
    (fun _ entries =>
      entries.alter key (.tables []) fun item =>
        match item with
        | .tables elements => .ok (.tables (elements ++ [.table .declared [] (some span)]))
        | _ => .error (taken way key))
    .declared [] way

def inSection (stop : Nat) (change : Entries → Except Cause Entries) :
    List Text → Entries → Except Cause Entries
  | [], entries => change entries
  | name :: way, entries =>
    let grown (span : Span) : Span := if way.isEmpty then ⟨span.start, stop⟩ else span
    entries.mapM fun (key, item) => do
      if key.name = name then
        return (key, ← item.onTable fun form inner span => do
          return .table form (← inSection stop change way inner) (span.map grown))
      else return (key, item)

end Entries

end DeclSplit.Toml
