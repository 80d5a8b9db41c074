import DeclSplit.Json
import Mathlib.Data.Nat.Notation

/-! Reading JSON: all of its grammar, with blanks wherever they may stand. -/

namespace DeclSplit.Json

inductive Value where
  | null
  | flag (value : Bool)
  | number (spelling : Text)
  | text (value : Text)
  | list (items : List Value)
  | object (members : List (Text × Value))

namespace Reading

variable {α : Type}

def isBlank (c : Char) : Bool := c = ' ' || c = '\t' || c = '\n' || c = '\r'

def blanks (text : Text) : Text := text.dropWhile isBlank

def hexDigit? (c : Char) : Option ℕ :=
  if c.isDigit then some (c.toNat - 48)
  else if 'a' ≤ c ∧ c ≤ 'f' then some (c.toNat - 87)
  else if 'A' ≤ c ∧ c ≤ 'F' then some (c.toNat - 55)
  else none

def unit (text : Text) : Option (ℕ × Text) := do
  let digits ← (text.take 4).mapM hexDigit?
  if digits.length = 4 then some (digits.foldl (fun n d => 16 * n + d) 0, text.drop 4) else none

def coded (text : Text) : Option (Char × Text) := do
  let (high, rest) ← unit text
  if high.isValidChar then some (Char.ofNat high, rest) else
  match rest with
  | '\\' :: 'u' :: rest => do
    let (low, rest) ← unit rest
    if high < 0xDC00 ∧ 0xDC00 ≤ low ∧ low < 0xE000
      then some (Char.ofNat (0x10000 + (high - 0xD800) * 0x400 + (low - 0xDC00)), rest) else none
  | _ => none

def escaped : Text → Option (Char × Text)
  | '"' :: rest => some ('"', rest)
  | '\\' :: rest => some ('\\', rest)
  | '/' :: rest => some ('/', rest)
  | 'b' :: rest => some ('\x08', rest)
  | 'f' :: rest => some ('\x0c', rest)
  | 'n' :: rest => some ('\n', rest)
  | 'r' :: rest => some ('\r', rest)
  | 't' :: rest => some ('\t', rest)
  | 'u' :: rest => coded rest
  | _ => none

def character : Text → Option (Char × Text)
  | '\\' :: rest => escaped rest
  | c :: rest => if 0x20 ≤ c.toNat then some (c, rest) else none
  | [] => none

def chars : ℕ → Text → Option (Text × Text)
  | 0, _ => none
  | n + 1, source =>
    if source.head? = some '"' then some ([], source.tail) else do
      let (first, rest) ← character source
      let (more, rest) ← chars n rest
      some (first :: more, rest)

def digits (text : Text) : Option (Text × Text) :=
  match text.takeWhile Char.isDigit with
  | [] => none
  | run => some (run, text.dropWhile Char.isDigit)

def whole (text : Text) : Option (Text × Text) := do
  let (run, rest) ← digits text
  if run.head? = some '0' ∧ run ≠ ['0'] then none else some (run, rest)

def fraction : Text → Option (Text × Text)
  | '.' :: rest => (digits rest).map fun (run, rest) => ('.' :: run, rest)
  | rest => some ([], rest)

def sign (allowed : Text) : Text → Text × Text
  | c :: rest => if c ∈ allowed then ([c], rest) else ([], c :: rest)
  | [] => ([], [])

def exponent : Text → Option (Text × Text)
  | mark :: rest =>
    if mark = 'e' ∨ mark = 'E' then
      let (sign, rest) := sign ['+', '-'] rest
      (digits rest).map fun (run, rest) => (mark :: sign ++ run, rest)
    else some ([], mark :: rest)
  | [] => some ([], [])

def number (text : Text) : Option (Text × Text) := do
  let (sign, rest) := sign ['-'] text
  let (whole, rest) ← whole rest
  let (fraction, rest) ← fraction rest
  let (exponent, rest) ← exponent rest
  some (sign ++ whole ++ fraction ++ exponent, rest)

def items (item : Text → Option (α × Text)) (close : Char) : ℕ → Text → Option (List α × Text)
  | 0, _ => none
  | n + 1, source => do
    let (first, rest) ← item source
    match blanks rest with
    | [] => none
    | c :: rest =>
      if c = close then some ([first], rest)
      else if c = ',' then (items item close n rest).map fun (more, rest) => (first :: more, rest)
      else none

def enclosed (item : Text → Option (α × Text)) (close : Char) (n : ℕ) (text : Text) : Option (List α × Text) :=
  if (blanks text).head? = some close then some ([], (blanks text).tail) else items item close n text

def member (value : Text → Option (Value × Text)) (n : ℕ) (text : Text) : Option ((Text × Value) × Text) :=
  match blanks text with
  | '"' :: rest => do
    let (name, rest) ← chars n rest
    match blanks rest with
    | ':' :: rest => (value rest).map fun (said, rest) => ((name, said), rest)
    | _ => none
  | _ => none

def words : List (Text × Value) := [("true", .flag true), ("false", .flag false), ("null", .null)]

def value : ℕ → Text → Option (Value × Text)
  | 0, _ => none
  | n + 1, source =>
    match blanks source with
    | '"' :: rest => (chars n rest).map fun (said, rest) => (.text said, rest)
    | '[' :: rest => (enclosed (value n) ']' n rest).map fun (said, rest) => (.list said, rest)
    | '{' :: rest => (enclosed (member (value n) n) '}' n rest).map fun (said, rest) => (.object said, rest)
    | front =>
      match words.find? fun entry => entry.1.isPrefixOf front with
      | some (word, said) => some (said, front.drop word.length)
      | none => (number front).map fun (said, rest) => (.number said, rest)

end Reading

def read? (text : Text) : Option Value := do
  let (said, rest) ← Reading.value (text.length + 1) text
  if (Reading.blanks rest).isEmpty then some said else none

example : (read? "[\"\\ud83d\\ude00\\u00e9\", -0.5e+3, null ] ").isSome = true := by decide +kernel

example : (read? "[1,]").isSome = false ∧ (read? "01").isSome = false ∧ (read? "\"\\ud83d\"").isSome = false := by
  decide +kernel

end DeclSplit.Json
