import DeclSplit.Syntax.Diagnostic
import DeclSplit.Syntax.Keyword
import DeclSplit.Syntax.Punctuator

/-!
Tokens: the pieces a source text is read in.  A token remembers where it stands (in bytes), the
characters it was read from, and the name it spells when the spelling uses escapes.
-/

namespace DeclSplit

inductive TemplatePiece where
  | whole | head | middle | tail
deriving DecidableEq, Repr

inductive TokenKind where
  | finish
  | unreadable
  | name
  | keyword (word : Keyword)
  | privateName
  | punctuator (mark : Punctuator)
  | numeral (decimal : Bool)
  | text
  | template (piece : TemplatePiece)
  | pattern
  | markupText
deriving DecidableEq, Repr

namespace TokenKind

def describe : TokenKind → String
  | finish => "EOF"
  | unreadable => "Unknown"
  | name => "Identifier"
  | keyword word => word.spelling
  | privateName => "#identifier"
  | punctuator mark => mark.spelling
  | numeral true => "decimal"
  | numeral false => "float"
  | text => "string"
  | template .whole => "$\x7b\x7d"
  | template .head => "$\x7b"
  | template .middle => "$\x7bexpr\x7d"
  | template .tail => "\x7d"
  | pattern => "/regexp/"
  | markupText => "jsx"

def isWord : TokenKind → Bool
  | name | keyword _ => true
  | _ => false

def isIdentifier : TokenKind → Bool
  | name => true
  | keyword word => !word.isReserved
  | _ => false

def isReserved : TokenKind → Bool
  | keyword word => word.isReserved
  | _ => false

def isModifier : TokenKind → Bool
  | keyword word => word.isModifier
  | _ => false

def isNumeral : TokenKind → Bool
  | numeral _ => true
  | _ => false

def isExhausted : TokenKind → Bool
  | finish | unreadable => true
  | _ => false

end TokenKind

structure Token where
  kind : TokenKind
  start : Nat
  stop : Nat
  lexeme : List Char
  decoded : Option (List Char)
  newlineBefore : Bool
deriving DecidableEq, Repr

namespace Token

def name (t : Token) : List Char := t.decoded.getD t.lexeme

def isEscaped (t : Token) : Bool := t.decoded.isSome

theorem name_eq_lexeme {t : Token} (plain : t.isEscaped = false) : t.name = t.lexeme := by
  cases h : t.decoded <;> simp_all [name, isEscaped]

end Token

end DeclSplit
