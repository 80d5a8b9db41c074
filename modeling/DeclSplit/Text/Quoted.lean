import DeclSplit.Text.Basic
import DeclSplit.Unicode.Visible

/-!
Quoted texts: between double quotes, with a backslash in front of what could not be read otherwise.
-/

namespace DeclSplit.Text

def hexadecimal (n : Nat) : Text := Nat.toDigits 16 n

def quoteChar (c : Char) : Text :=
  match c with
  | '"' => "\\\""
  | '\\' => "\\\\"
  | '\n' => "\\n"
  | '\r' => "\\r"
  | '\t' => "\\t"
  | '\x00' => "\\0"
  | c => if Unicode.isVisible c then [c] else "\\u\x7b" ++ hexadecimal c.toNat ++ "\x7d"

def quoted (text : Text) : Text := '"' :: text.flatMap quoteChar ++ "\""

end DeclSplit.Text
