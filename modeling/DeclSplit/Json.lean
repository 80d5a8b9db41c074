import DeclSplit.Text.Quoted

/-!
JSON documents and how they are written: two spaces for each level, a line for each item, and characters beyond
ASCII as they are.
-/

namespace DeclSplit

inductive Json where
  | flag (value : Bool)
  | number (value : Nat)
  | text (value : Text)
  | list (items : List Json)
  | object (members : List (Text × Json))

namespace Json

def escape (c : Char) : Text :=
  match c with
  | '"' => "\\\""
  | '\\' => "\\\\"
  | '\x08' => "\\b"
  | '\t' => "\\t"
  | '\n' => "\\n"
  | '\x0c' => "\\f"
  | '\r' => "\\r"
  | c =>
    if c.toNat < 0x10 then "\\u000" ++ Text.hexadecimal c.toNat
    else if c.toNat < 0x20 then "\\u00" ++ Text.hexadecimal c.toNat
    else [c]

def writeText (text : Text) : Text := '"' :: text.flatMap escape ++ "\""

def newLine (depth : Nat) : Text := '\n' :: List.replicate (2 * depth) ' '

mutual

def writeAt (depth : Nat) : Json → Text
  | flag true => "true"
  | flag false => "false"
  | number n => Text.ofNat n
  | text chars => writeText chars
  | list [] => "[]"
  | list (item :: rest) =>
    '[' :: newLine (depth + 1) ++ writeAt (depth + 1) item ++ writeItems (depth + 1) rest ++ newLine depth ++ "]"
  | object [] => "\x7b\x7d"
  | object ((name, value) :: rest) =>
    '{' :: newLine (depth + 1) ++ writeText name ++ ": " ++ writeAt (depth + 1) value
      ++ writeMembers (depth + 1) rest ++ newLine depth ++ "\x7d"

def writeItems (depth : Nat) : List Json → Text
  | [] => []
  | item :: rest => ',' :: newLine depth ++ writeAt depth item ++ writeItems depth rest

def writeMembers (depth : Nat) : List (Text × Json) → Text
  | [] => []
  | (name, value) :: rest =>
    ',' :: newLine depth ++ writeText name ++ ": " ++ writeAt depth value ++ writeMembers depth rest

end

def write (document : Json) : Text := writeAt 0 document

end Json

end DeclSplit
