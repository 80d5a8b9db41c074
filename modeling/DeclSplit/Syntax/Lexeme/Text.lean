import DeclSplit.Syntax.Lexeme.Blank
import DeclSplit.Syntax.Lexeme.Name

/-!
Quoted pieces: string literals, the pieces of template literals, and regular expressions.
-/

namespace DeclSplit

def textEscape : List Char → Nat × Bool
  | [] => (0, true)
  | '\r' :: '\n' :: _ => (2, true)
  | 'x' :: r =>
    let (value, length) := hexDigits 2 0 r
    (length + 1, value.isSome)
  | 'u' :: r =>
    let escape := UnicodeEscape.read r
    (escape.length + 1, escape.wellFormed)
  | _ :: _ => (1, true)

structure TextScan where
  length : Nat
  closed : Bool
  faults : List Diagnostic
deriving DecidableEq, Repr

namespace TextScan

/-- Reads the inside of a string literal up to its closing quote; `skip` characters still belong to an
escape that has been checked, `count` have been passed. -/
def string (quote : Char) : (skip count : Nat) → (faults : List Diagnostic) → List Char → TextScan
  | skip + 1, count, faults, _ :: r => string quote skip (count + 1) faults r
  | 0, count, faults, '\\' :: r =>
    let (length, wellFormed) := textEscape r
    string quote length (count + 1) (if wellFormed then faults else .badTextEscape :: faults) r
  | 0, count, faults, c :: r =>
    if c == quote then ⟨count + 1, true, faults.reverse⟩
    else if c == '\n' || c == '\r' then ⟨count, false, faults.reverse⟩
    else string quote 0 (count + 1) faults r
  | _, count, faults, [] => ⟨count, false, faults.reverse⟩

def pattern : (inClass : Bool) → (count : Nat) → List Char → TextScan
  | inClass, count, '\\' :: c :: r =>
    if isLineEnd c then ⟨count + 1, false, []⟩ else pattern inClass (count + 2) r
  | inClass, count, c :: r =>
    if isLineEnd c then ⟨count, false, []⟩
    else if c == '/' && !inClass then ⟨count + 1, true, []⟩
    else if c == '[' then pattern true (count + 1) r
    else if c == ']' then pattern false (count + 1) r
    else pattern inClass (count + 1) r
  | _, count, [] => ⟨count, false, []⟩

end TextScan

inductive TemplateEnd where
  | closed | hole | missing
deriving DecidableEq, Repr

def templateBody : (count : Nat) → List Char → Nat × TemplateEnd
  | count, '\\' :: _ :: r => templateBody (count + 2) r
  | count, '`' :: _ => (count + 1, .closed)
  | count, '$' :: '\x7b' :: _ => (count + 2, .hole)
  | count, _ :: r => templateBody (count + 1) r
  | count, [] => (count, .missing)

end DeclSplit
