import DeclSplit.Toml.Moment
import DeclSplit.Toml.Table

/-!
Keys and values.
-/

namespace DeclSplit.Toml.Reader

/-- A dotted key has fewer parts than this, and a value fewer brackets and braces around it. -/
def deepest : Nat := 80

def isBare (c : Char) : Bool := c.val < 128 && (c.isAlphanum || c = '-' || c = '_')

def simpleKey : Reader Key := do
  blanks
  let (name, span) ← located do
    match ← peek? with
    | some '"' => basicString
    | some '\'' => literalString
    | _ => some_ isBare
  blanks
  return ⟨name, span⟩

def key : Reader (List Key × Key) :=
  restrict (within .key (separated simpleKey (char '.'))) fun parts =>
    match parts.reverse with
    | [] => .error .outOfRange
    | last :: steps => if parts.length < deepest then .ok (steps.reverse, last) else .error .tooDeep

def equals : Reader Unit := do
  let _ ← wanting (.char '=') (wanting (.char '.') (char '='))

def word {α : Type} (r : Reader α) : Reader α :=
  wanting (.char '\'') (wanting (.char '"') (within .value r))

def scalar : Reader (Span → Item) := do
  match ← peek? with
  | none => refuse
  | some c =>
    if c = '"' || c = '\'' then return .string (← string)
    else if c = '+' || c = '-' || c.isDigit then
      orElse (do moment; return .moment) <|
      orElse (do return .float (← float)) (do return .integer (← integer))
    else if c = '_' then return .integer (← wanting .leadingDigit integer)
    else if c = '.' then return .float (← wanting .leadingDigit float)
    else if c = 't' then do word (commit (exactly "true")); return .boolean true
    else if c = 'f' then do word (commit (exactly "false")); return .boolean false
    else if c = 'i' then return .float (← word infinity)
    else if c = 'n' then return .float (← word notANumber)
    else word refuse

def array (element : Reader Item) : Reader (Span → Item) := do
  let _ ← char '['
  let elements ← commit do
    if (← peek?) = some ']' then return []
    let read ← optional (separated (do gap; let item ← element; gap; return item) (char ','))
    if read.isSome then
      let _ ← optional (char ',')
    gap
    return read.getD []
  let _ ← commit (wanting (.char ']') (within .array (char ']')))
  return .array elements

def pair (element : Reader Item) : Reader ((List Key × Key) × Item) := do
  let name ← key
  commit do
    equals
    blanks
    let item ← element
    blanks
    return (name, item)

def inlineTable (element : Reader Item) : Reader (Span → Item) := do
  let _ ← char '\x7b'
  let pairs : Reader (List ((List Key × Key) × Item)) := do
    let read ← optional (separated (pair element) (char ','))
    blanks
    return read.getD []
  let entries ← commit <| restrict pairs fun read =>
    read.foldlM (fun entries ((way, key), item) =>
      Entries.assign .inlineDotted none .inline way key item entries) []
  let _ ← commit (wanting (.char '\x7d') (within .inlineTable (char '\x7d')))
  return fun span => .table .inline entries (some span)

def value : Nat → Reader Item
  | 0 => do
    match ← peek? with
    | some '[' | some '\x7b' => fun p => .broken { Fault.at_ p.offset with cause := some .tooDeep }
    | _ =>
      let (item, span) ← located scalar
      return item span
  | depth + 1 => do
    let (item, span) ← located do
      match ← peek? with
      | some '[' => array (value depth)
      | some '\x7b' => inlineTable (value depth)
      | _ => scalar
    return item span

end DeclSplit.Toml.Reader
