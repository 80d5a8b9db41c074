import DeclSplit.Syntax.Lexeme.Name

/-!
Numerals.  A numeral is read as far as its digits go; a separator without a digit after it is reported but
leaves the numeral usable, while missing digits of a base or an exponent, or a name character directly
behind the numeral, make the whole piece unreadable.
-/

namespace DeclSplit

structure NumeralScan where
  length : Nat
  usable : Bool
  decimal : Bool
  faults : List Diagnostic
deriving DecidableEq, Repr

namespace NumeralScan

def missingDigit : List Char → Diagnostic
  | c :: _ => .invalidCharacter c
  | [] => .unexpectedEnd

def digits (isDigit : Char → Bool) : List Char → Nat × List Diagnostic
  | '_' :: c :: r =>
    if isDigit c then
      let (length, faults) := digits isDigit r
      (length + 2, faults)
    else (1, [.invalidCharacter c])
  | ['_'] => (1, [.unexpectedEnd])
  | c :: r =>
    if isDigit c then
      let (length, faults) := digits isDigit r
      (length + 1, faults)
    else (0, [])
  | [] => (0, [])

def someDigits (isDigit : Char → Bool) : List Char → Option (Nat × List Diagnostic)
  | c :: r =>
    if isDigit c then
      let (length, faults) := digits isDigit r
      some (length + 1, faults)
    else none
  | [] => none

def withExponent (s : NumeralScan) (rest : List Char) : NumeralScan :=
  match rest with
  | mark :: r =>
    if mark == 'e' || mark == 'E' then
      let sign := match r with
        | '+' :: _ | '-' :: _ => 1
        | _ => 0
      match someDigits Char.isDigit (r.drop sign) with
      | some (length, faults) =>
        { s with length := s.length + 1 + sign + length, decimal := false, faults := s.faults ++ faults }
      | none =>
        { s with
          length := s.length + 1 + sign, usable := false,
          faults := s.faults ++ [missingDigit (r.drop sign)] }
    else s
  | [] => s

def withFraction (s : NumeralScan) (rest : List Char) : NumeralScan :=
  let (length, faults) := (someDigits Char.isDigit rest).getD (0, [])
  withExponent
    { s with length := s.length + length, decimal := false, faults := s.faults ++ faults }
    (rest.drop length)

def checkEnd (s : NumeralScan) (text : List Char) : NumeralScan :=
  match text.drop s.length with
  | c :: r =>
    if c.isDigit || isNameStart c then
      { s with
        length := s.length + 1 + (r.takeWhile isNameStart).length, usable := false,
        faults := s.faults ++ [.badNumberEnd] }
    else s
  | [] => s

def based (isDigit : Char → Bool) (rest : List Char) : NumeralScan :=
  match someDigits isDigit rest with
  | none => ⟨2, false, false, [missingDigit rest]⟩
  | some (length, faults) =>
    if faults.isEmpty then
      let suffix := if (rest.drop length).head? == some 'n' then 1 else 0
      ⟨2 + length + suffix, true, false, []⟩
    else ⟨2 + length, false, false, faults⟩

def isBinaryDigit (c : Char) : Bool := c == '0' || c == '1'

def isOctalDigit (c : Char) : Bool := '0' ≤ c && c ≤ '7'

def isHexDigit (c : Char) : Bool := (hexValue c).isSome

def afterLeadingZero (rest : List Char) : NumeralScan :=
  let run := rest.takeWhile Char.isDigit
  let s : NumeralScan := ⟨1 + run.length, true, true, []⟩
  if run.all isOctalDigit then { s with decimal := false }
  else
    match rest.drop run.length with
    | '.' :: r => withFraction { s with length := s.length + 1 } r
    | r => withExponent s r

def ofDigit : List Char → NumeralScan
  | '0' :: r =>
    match r with
    | [] => ⟨1, true, true, []⟩
    | c :: rest =>
      if c == 'b' || c == 'B' then based isBinaryDigit rest
      else if c == 'o' || c == 'O' then based isOctalDigit rest
      else if c == 'x' || c == 'X' then based isHexDigit rest
      else if c == '.' then withFraction ⟨2, true, false, []⟩ rest
      else if c == 'n' then ⟨2, true, false, []⟩
      else if c.isDigit then afterLeadingZero r
      else withExponent ⟨1, true, true, []⟩ r
  | cs =>
    let (length, faults) := digits Char.isDigit cs
    let s : NumeralScan := ⟨length, true, true, faults⟩
    match cs.drop length with
    | '.' :: r => withFraction { s with length := length + 1 } r
    | 'n' :: _ => { s with length := length + 1, decimal := false }
    | r => withExponent s r

def ofPoint (rest : List Char) : NumeralScan := withFraction ⟨1, true, false, []⟩ rest

def read (text : List Char) : NumeralScan :=
  let s := match text with
    | '.' :: rest => ofPoint rest
    | _ => ofDigit text
  if s.usable then checkEnd s text else s

end NumeralScan

end DeclSplit
