import DeclSplit.Syntax.Dialect

/-!
What stands between tokens: blanks, line ends and comments.  A comment that is never closed is left in
place, so that it can be reported as the token it begins.
-/

namespace DeclSplit

def isLineEnd (c : Char) : Bool :=
  c == '\n' || c == '\r' || c == '\u2028' || c == '\u2029'

def isBlank (c : Char) : Bool :=
  c == ' ' || c == '\t' || c == '\x0b' || c == '\x0c' || c == '\u0085' || c == '\u00a0' ||
    c == '\u1680' || c == '\u180e' || ('\u2000' ≤ c && c ≤ '\u200b') || c == '\u202f' ||
    c == '\u205f' || c == '\u3000' || c == '\ufeff'

structure Gap where
  length : Nat
  newline : Bool
  unclosed : Bool
deriving DecidableEq, Repr

namespace Gap

inductive Place where
  | outside
  | lineComment
  | blockComment (opened : Nat)

def read (d : Dialect) : Place → (count : Nat) → (newline : Bool) → List Char → Gap
  | .outside, n, line, '/' :: '/' :: r => read d .lineComment (n + 2) line r
  | .outside, n, line, '/' :: '*' :: r => read d (.blockComment n) (n + 2) line r
  | .outside, n, line, '<' :: '!' :: '-' :: '-' :: r =>
    if d.isModule then ⟨n, line, false⟩ else read d .lineComment (n + 4) line r
  | .outside, n, line, '-' :: '-' :: '>' :: r =>
    if d.isModule || !line then ⟨n, line, false⟩ else read d .lineComment (n + 3) line r
  | .outside, n, line, c :: r =>
    if isLineEnd c then read d .outside (n + 1) true r
    else if isBlank c then read d .outside (n + 1) line r
    else ⟨n, line, false⟩
  | .outside, n, line, [] => ⟨n, line, false⟩
  | .lineComment, n, line, c :: r =>
    if isLineEnd c then read d .outside (n + 1) true r else read d .lineComment (n + 1) line r
  | .lineComment, n, line, [] => ⟨n, line, false⟩
  | .blockComment _, n, line, '*' :: '/' :: r => read d .outside (n + 2) line r
  | .blockComment opened, n, line, c :: r =>
    read d (.blockComment opened) (n + 1) (line || isLineEnd c) r
  | .blockComment opened, _, line, [] => ⟨opened, line, true⟩

def interpreterLine : List Char → Nat
  | '#' :: '!' :: r => 2 + (r.takeWhile (!isLineEnd ·)).length
  | _ => 0

end Gap

end DeclSplit
