import DeclSplit.Config.Basic
import DeclSplit.Config.Fault
import DeclSplit.Decimal.Shortest
import DeclSplit.Text.Quoted
import DeclSplit.Toml.Document

/-!
Reading the configuration off a document: the table `split` holds the four settings, and everything else is left
alone.  The first bad setting in the order of the document is told.
-/

namespace DeclSplit

open Toml

namespace Toml.Float64

def spelling : Float64 → Text
  | finite negative magnitude => (if negative then "-" else "") ++ magnitude.shortest.positional
  | infinite negative => if negative then "-inf" else "inf"
  | notANumber => "NaN"

end Toml.Float64

namespace Toml.Item

def described : Item → Text
  | string value _ => "string " ++ value.quoted
  | integer value _ =>
    "integer `" ++ (if value < 0 then "-" else "") ++ Text.ofNat value.natAbs ++ "`"
  | float value _ => "floating point `" ++ value.spelling ++ "`"
  | boolean value _ => if value then "boolean `true`" else "boolean `false`"
  | array .. | tables .. => "sequence"
  | moment .. | table .. => "map"

end Toml.Item

namespace Config

abbrev Read := Except (ConfigFault × Option Span)

def readText (item : Item) : Read Text :=
  match item with
  | .string value _ => .ok value
  | item => .error (.wrongKind item.described .text, item.span?)

def readFlag (item : Item) : Read Bool :=
  match item with
  | .boolean value _ => .ok value
  | item => .error (.wrongKind item.described .flag, item.span?)

def modeNamed (name : Text) (span : Option Span) : Read MatchMode :=
  match MatchMode.ofSpelling? name with
  | some mode => .ok mode
  | none => .error (.unknownMode name, span)

def modeEntry (item : Item) : Read Unit :=
  match item with
  | .array [] _ | .tables [] | .table _ [] _ => .ok ()
  | .array .. | .tables _ => .error (.modeArray, item.span?)
  | .table .. => .error (.modeTable, item.span?)
  | item => .error (.modeEntry item.kind, item.span?)

def readMode (item : Item) : Read MatchMode :=
  match item with
  | .string name span => modeNamed name span
  | .table _ [] span => .error (.noMode, span)
  | .table _ [(key, entry)] _ => do
    let mode ← modeNamed key.name key.span
    modeEntry entry
    return mode
  | .table _ _ span => .error (.manyModes, span)
  | item => .error (.modeForm, item.span?)

def setting (config : Config) (name : Text) (item : Item) : Read Config :=
  if name = "output" then do return { config with output := some (← readText item) }
  else if name = "overwrite" then do return { config with overwrite := some (← readFlag item) }
  else if name = "match" then do return { config with mode := some (← readMode item) }
  else if name = "extension" then do return { config with extension := some (← readText item) }
  else .ok config

def atKey {α : Type} (key : Key) : Read α → Read α
  | .error (fault, span) => .error (fault, span.or (some key.span))
  | read => read

def ofEntries (entries : Entries) : Read Config :=
  entries.foldlM (fun config (key, item) => atKey key (config.setting key.name item)) {}

def ofElements (elements : List Item) (span : Option Span) : Read Config :=
  let names : List Text := ["output", "overwrite", "match", "extension"]
  let read := (names.zip elements).foldlM (fun config (name, item) => setting config name item) {}
  if elements.length < names.length then do
    let _ ← read
    throw (.tooShort elements.length, span)
  else read

def ofItem (item : Item) : Read Config :=
  match item with
  | .table _ entries _ => ofEntries entries
  | .array elements _ | .tables elements => ofElements elements item.span?
  | .moment _ => .ok {}
  | item => .error (.wrongKind item.described .section_, item.span?)

def ofDocument (doc : Document) : Read Config :=
  match doc.entries.find? fun (key, _) => key.name = "split" with
  | none => .ok {}
  | some (key, item) => atKey key (ofItem item)

end Config

end DeclSplit
