import DeclSplit.Toml.Blank

/-!
Quoted texts: in double quotes, where a backslash begins an escape, or in single quotes, where it does not, and
either on one line or, in three quotes, on several.
-/

namespace DeclSplit.Toml.Reader

def isDigit (c : Char) : Bool := c.isDigit

def isHexDigit (c : Char) : Bool := c.isDigit || ('a' ≤ c && c ≤ 'f') || ('A' ≤ c && c ≤ 'F')

def digitValue (c : Char) : Nat :=
  if c.isDigit then c.toNat - 48
  else if 'a' ≤ c then c.toNat - 87
  else c.toNat - 55

def valueOf (base : Nat) (digits : Text) : Nat := digits.foldl (fun n c => n * base + digitValue c) 0

def codePoint (count : Nat) : Reader Char :=
  restrict (times count isHexDigit) fun code =>
    let n := valueOf 16 code
    if n.isValidChar then .ok (Char.ofNat n) else .error .outOfRange

def badEscape (c : Char) : Reader Char := fun p =>
  let offset := if c.utf8Size = 1 then p.offset else p.offset - c.utf8Size
  .broken ⟨offset, some .escape, "bfnrtuU\\\"".toList.map .char, none⟩

def escaped : Reader Char := do
  let _ ← char '\\'
  match ← one fun _ => true with
  | 'b' => return '\x08'
  | 'f' => return '\x0c'
  | 'n' => return '\n'
  | 'r' => return '\r'
  | 't' => return '\t'
  | 'u' => commit (within .shortCode (codePoint 4))
  | 'U' => commit (within .longCode (codePoint 8))
  | '\\' => return '\\'
  | '"' => return '"'
  | c => badEscape c

def isPlain (c : Char) : Bool := isInLine c && c ≠ '"' && c ≠ '\\'

def isLiteral (c : Char) : Bool := isInLine c && c ≠ '\''

def basicString : Reader Text := do
  let _ ← char '"'
  let body ← many (orElse (some_ isPlain) (do return [← escaped]))
  let _ ← commit (within .basicString (char '"'))
  return body.flatten

def literalString : Reader Text := within .literalString do
  let _ ← char '\''
  let body ← all isLiteral
  let _ ← commit (char '\'')
  return body

def joinedLines : Reader Unit := do
  let joint : Reader Unit := do
    let _ ← char '\\'
    blanks
    newlines
  joint
  let _ ← many joint

def newlineText : Reader Text := do
  newline
  return "\n"

def quotesBefore (quote : Char) (next : Reader Unit) : Reader Text :=
  orElse (do exactly [quote, quote]; ahead next; return [quote, quote])
    (do exactly [quote]; ahead next; return [quote])

def longBody (quote : Char) (piece : Reader Text) : Reader Text := do
  let first ← many piece
  let later ← many do
    let quotes ← quotesBefore quote (do let _ ← piece)
    return quotes ++ (← many piece).flatten
  let last ← optional (quotesBefore quote (exactly [quote, quote, quote]))
  return first.flatten ++ later.flatten ++ last.getD []

def longBasicString : Reader Text := within .longBasicString do
  exactly "\"\"\""
  let _ ← optional newline
  let piece := orElse (some_ isPlain) <|
    orElse (do joinedLines; return []) <|
    orElse (do return [← escaped]) newlineText
  let body ← commit (longBody '"' piece)
  commit (exactly "\"\"\"")
  return body

def longLiteralString : Reader Text := within .longLiteralString do
  exactly "'''"
  let _ ← optional newline
  let body ← commit (longBody '\'' (orElse (some_ isLiteral) newlineText))
  commit (exactly "'''")
  return body

def string : Reader Text :=
  orElse longBasicString <| orElse basicString <| orElse longLiteralString literalString

end DeclSplit.Toml.Reader
