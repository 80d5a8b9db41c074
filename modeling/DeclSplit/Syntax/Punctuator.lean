/-!
Punctuators and operators.  A punctuator is read as the longest one that the text begins with, except
that a closing angle is read alone first: whether `>>` closes two lists or shifts is for the grammar to
say, and it asks for the longer reading where an operator may stand.
-/

namespace DeclSplit

inductive Punctuator where
  | lCurly | rCurly | lParen | rParen | lBrack | rBrack | dot | dot3 | semicolon | comma | lAngle
  | rAngle | ltEq | gtEq | eq2 | notEq | eq3 | notEq2 | plus | minus | star | slash | percent
  | star2 | plus2 | minus2 | shl | shr | shr3 | amp | pipe | caret | bang | tilde | amp2 | pipe2
  | question | question2 | questionDot | colon | eq | plusEq | minusEq | starEq | slashEq
  | percentEq | star2Eq | shlEq | shrEq | shr3Eq | ampEq | pipeEq | caretEq | amp2Eq | pipe2Eq
  | question2Eq | arrow | at
deriving DecidableEq, Repr

namespace Punctuator

def spelling : Punctuator → String
  | .lCurly => "\x7b"
  | .rCurly => "\x7d"
  | .lParen => "("
  | .rParen => ")"
  | .lBrack => "["
  | .rBrack => "]"
  | .dot => "."
  | .dot3 => "..."
  | .semicolon => ";"
  | .comma => ","
  | .lAngle => "<"
  | .rAngle => ">"
  | .ltEq => "<="
  | .gtEq => ">="
  | .eq2 => "=="
  | .notEq => "!="
  | .eq3 => "==="
  | .notEq2 => "!=="
  | .plus => "+"
  | .minus => "-"
  | .star => "*"
  | .slash => "/"
  | .percent => "%"
  | .star2 => "**"
  | .plus2 => "++"
  | .minus2 => "--"
  | .shl => "<<"
  | .shr => ">>"
  | .shr3 => ">>>"
  | .amp => "&"
  | .pipe => "|"
  | .caret => "^"
  | .bang => "!"
  | .tilde => "~"
  | .amp2 => "&&"
  | .pipe2 => "||"
  | .question => "?"
  | .question2 => "??"
  | .questionDot => "?."
  | .colon => ":"
  | .eq => "="
  | .plusEq => "+="
  | .minusEq => "-="
  | .starEq => "*="
  | .slashEq => "/="
  | .percentEq => "%="
  | .star2Eq => "**="
  | .shlEq => "<<="
  | .shrEq => ">>="
  | .shr3Eq => ">>>="
  | .ampEq => "&="
  | .pipeEq => "|="
  | .caretEq => "^="
  | .amp2Eq => "&&="
  | .pipe2Eq => "||="
  | .question2Eq => "??="
  | .arrow => "=>"
  | .at => "@"

def plainForms : List Punctuator := [
  .dot3, .eq3, .notEq2, .star2Eq, .shlEq, .amp2Eq, .pipe2Eq, .question2Eq, .ltEq, .eq2, .notEq,
  .star2, .plus2, .minus2, .shl, .amp2, .pipe2, .question2, .questionDot, .plusEq, .minusEq,
  .starEq, .slashEq, .percentEq, .ampEq, .pipeEq, .caretEq, .arrow, .lCurly, .rCurly, .lParen,
  .rParen, .lBrack, .rBrack, .dot, .semicolon, .comma, .lAngle, .plus, .minus, .star, .slash,
  .percent, .amp, .pipe, .caret, .bang, .tilde, .question, .colon, .eq, .at]

def angleForms : List Punctuator := [
  .shr3Eq, .shr3, .shrEq, .gtEq, .shr, .rAngle]

def longestAt (forms : List Punctuator) (text : List Char) : Option (Punctuator × Nat) :=
  match forms.find? (fun p => p.spelling.toList.isPrefixOf text) with
  | some p => some (p, p.spelling.length)
  | none => none

end Punctuator

end DeclSplit
