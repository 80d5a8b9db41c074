import DeclSplit.Proofs.Toml.Meaning
import DeclSplit.Toml.Moment
import Mathlib.Data.Nat.Digits.Defs

/-! The spelling of configuration texts, by the rules of the format: which texts are blanks, keys, values and
lines, and what they stand for.  The rules are told for texts as they stand, without a way of reading them. -/

namespace DeclSplit.Toml.Rules

/-- How far a reader goes along with the format, which sets no bounds of its own: the brackets around a value,
the parts of a dotted key, and the sizes of numbers. -/
structure Limits where
  depth : ℕ → Prop
  parts : ℕ → Prop
  integer : ℤ → Prop
  float : Float64 → Prop

def Limits.none : Limits := ⟨fun _ => True, fun _ => True, fun _ => True, fun _ => True⟩

def Limits.reader : Limits where
  depth n := n < 80
  parts n := n < 80
  integer n := -9223372036854775808 ≤ n ∧ n ≤ 9223372036854775807
  float x := x ≠ .infinite false

def between (low high : ℕ) (c : Char) : Bool := low ≤ c.toNat && c.toNat ≤ high

def isNonAscii (c : Char) : Bool := 0x80 ≤ c.toNat

def isBlank (c : Char) : Bool := c = ' ' || c = '\t'

def isRemark (c : Char) : Bool := c = '\t' || between 0x20 0x7e c || isNonAscii c

def isUnescaped (c : Char) : Bool :=
  isBlank c || c = '!' || between 0x23 0x5b c || between 0x5d 0x7e c || isNonAscii c

def isLiteral (c : Char) : Bool := c = '\t' || between 0x20 0x26 c || between 0x28 0x7e c || isNonAscii c

def isDigit (c : Char) : Bool := between 0x30 0x39 c

def isLeadingDigit (c : Char) : Bool := between 0x31 0x39 c

def isHexDigit (c : Char) : Bool := isDigit c || between 0x41 0x46 c || between 0x61 0x66 c

def isOctalDigit (c : Char) : Bool := between 0x30 0x37 c

def isBinaryDigit (c : Char) : Bool := between 0x30 0x31 c

def isBare (c : Char) : Bool := between 0x41 0x5a c || between 0x61 0x7a c || isDigit c || c = '-' || c = '_'

def digitOf (c : Char) : ℕ :=
  if isDigit c then c.toNat - 0x30 else if 0x61 ≤ c.toNat then c.toNat - 0x57 else c.toNat - 0x37

def numeral (base : ℕ) (digits : Text) : ℕ := Nat.ofDigits base (digits.reverse.map digitOf)

def Made (isMember : Char → Bool) (text : Text) : Prop := ∀ c ∈ text, isMember c = true

instance (isMember : Char → Bool) (text : Text) : Decidable (Made isMember text) :=
  List.decidableBAll (fun c => isMember c = true) text

inductive Newline : Text → Prop
  | lineFeed : Newline ['\n']
  | carriageReturn : Newline ['\r', '\n']

inductive Remark : Text → Prop
  | none : Remark []
  | comment {text : Text} : Made isRemark text → Remark ('#' :: text)

inductive Spacing : Text → Prop
  | blanks {b : Text} : Made isBlank b → Spacing b
  | line {b comment n g : Text} : Made isBlank b → Remark comment → Newline n → Spacing g →
      Spacing (b ++ comment ++ n ++ g)

inductive Escape : Text → Char → Prop
  | quote : Escape ['\\', '"'] '"'
  | backslash : Escape ['\\', '\\'] '\\'
  | backspace : Escape ['\\', 'b'] '\x08'
  | formFeed : Escape ['\\', 'f'] '\x0c'
  | lineFeed : Escape ['\\', 'n'] '\n'
  | carriageReturn : Escape ['\\', 'r'] '\r'
  | tab : Escape ['\\', 't'] '\t'
  | short {code : Text} : code.length = 4 → Made isHexDigit code → (numeral 16 code).isValidChar →
      Escape ('\\' :: 'u' :: code) (Char.ofNat (numeral 16 code))
  | long {code : Text} : code.length = 8 → Made isHexDigit code → (numeral 16 code).isValidChar →
      Escape ('\\' :: 'U' :: code) (Char.ofNat (numeral 16 code))

inductive BasicChars : Text → Text → Prop
  | nil : BasicChars [] []
  | plain {c : Char} {text value : Text} : isUnescaped c = true → BasicChars text value →
      BasicChars (c :: text) (c :: value)
  | escape {e : Text} {c : Char} {text value : Text} : Escape e c → BasicChars text value →
      BasicChars (e ++ text) (c :: value)

inductive Quoted : Text → Text → Prop
  | basic {text value : Text} : BasicChars text value → Quoted ('"' :: (text ++ ['"'])) value
  | literal {text : Text} : Made isLiteral text → Quoted ('\'' :: (text ++ ['\''])) text

def isWhite (c : Char) : Bool := isBlank c || c = '\n' || c = '\r'

inductive Whites : Text → Prop
  | blanks {b : Text} : Made isBlank b → Whites b
  | line {b n w : Text} : Made isBlank b → Newline n → Whites w → Whites (b ++ n ++ w)

/-- Several lines; a backslash at the end of one joins it to the next text that is not white. -/
inductive BasicLines : Text → Text → Prop
  | nil : BasicLines [] []
  | plain {c : Char} {text value : Text} : isUnescaped c = true → BasicLines text value →
      BasicLines (c :: text) (c :: value)
  | escape {e : Text} {c : Char} {text value : Text} : Escape e c → BasicLines text value →
      BasicLines (e ++ text) (c :: value)
  | newline {n text value : Text} : Newline n → BasicLines text value → BasicLines (n ++ text) ('\n' :: value)
  | joined {b n w text value : Text} : Made isBlank b → Newline n → Whites w →
      (∀ c ∈ text.head?, isWhite c = false) → BasicLines text value →
      BasicLines ('\\' :: b ++ n ++ w ++ text) value

inductive LiteralLines : Text → Text → Prop
  | nil : LiteralLines [] []
  | plain {c : Char} {text value : Text} : isLiteral c = true → LiteralLines text value →
      LiteralLines (c :: text) (c :: value)
  | newline {n text value : Text} : Newline n → LiteralLines text value → LiteralLines (n ++ text) ('\n' :: value)

inductive Quotes (quote : Char) : Text → Prop
  | one : Quotes quote [quote]
  | two : Quotes quote [quote, quote]

/-- One or two quotes in front of more lines, and so on; they may also stand at the very end. -/
inductive LongRest (quote : Char) (Lines : Text → Text → Prop) : Text → Text → Prop
  | nil : LongRest quote Lines [] []
  | quotes {q : Text} : Quotes quote q → LongRest quote Lines q q
  | more {q text value rest tail : Text} : Quotes quote q → text ≠ [] → Lines text value →
      LongRest quote Lines rest tail → LongRest quote Lines (q ++ text ++ rest) (q ++ value ++ tail)

inductive LongBody (quote : Char) (Lines : Text → Text → Prop) : Text → Text → Prop
  | mk {text value rest tail : Text} : Lines text value → LongRest quote Lines rest tail →
      LongBody quote Lines (text ++ rest) (value ++ tail)

inductive Long (quote : Char) (Lines : Text → Text → Prop) : Text → Text → Prop
  | plain {body value : Text} : body.head? ≠ some '\n' → body.head? ≠ some '\r' → LongBody quote Lines body value →
      Long quote Lines ([quote, quote, quote] ++ body ++ [quote, quote, quote]) value
  | opened {n body value : Text} : Newline n → LongBody quote Lines body value →
      Long quote Lines ([quote, quote, quote] ++ n ++ body ++ [quote, quote, quote]) value

inductive MoreDigits (isMember : Char → Bool) : Text → Text → Prop
  | nil : MoreDigits isMember [] []
  | digit {c : Char} {text digits : Text} : isMember c = true → MoreDigits isMember text digits →
      MoreDigits isMember (c :: text) (c :: digits)
  | underscore {c : Char} {text digits : Text} : isMember c = true → MoreDigits isMember text digits →
      MoreDigits isMember ('_' :: c :: text) (c :: digits)

inductive Digits (isMember : Char → Bool) : Text → Text → Prop
  | mk {c : Char} {text digits : Text} : isMember c = true → MoreDigits isMember text digits →
      Digits isMember (c :: text) (c :: digits)

inductive Sign : Text → Bool → Prop
  | none : Sign [] false
  | plus : Sign ['+'] false
  | minus : Sign ['-'] true

inductive Whole : Text → Text → Prop
  | digit {c : Char} : isDigit c = true → Whole [c] [c]
  | digits {c : Char} {text digits : Text} : isLeadingDigit c = true → MoreDigits isDigit text digits →
      Whole (c :: text) (c :: digits)

def signed (negative : Bool) (magnitude : ℕ) : ℤ := if negative then -magnitude else magnitude

inductive Radix : Text → ℕ → (Char → Bool) → Prop
  | hexadecimal : Radix ['0', 'x'] 16 isHexDigit
  | octal : Radix ['0', 'o'] 8 isOctalDigit
  | binary : Radix ['0', 'b'] 2 isBinaryDigit

inductive Integer : Text → ℤ → Prop
  | decimal {s text digits : Text} {negative : Bool} : Sign s negative → Whole text digits →
      Integer (s ++ text) (signed negative (numeral 10 digits))
  | based {mark text digits : Text} {base : ℕ} {isMember : Char → Bool} : Radix mark base isMember →
      Digits isMember text digits → Integer (mark ++ text) (numeral base digits)

inductive Exponent : Text → ℤ → Prop
  | mk {e : Char} {s text digits : Text} {negative : Bool} : e = 'e' ∨ e = 'E' → Sign s negative →
      Digits isDigit text digits → Exponent (e :: s ++ text) (signed negative (numeral 10 digits))

def nearest (negative : Bool) (whole places : Text) (exponent : ℤ) : Float64 :=
  match Binary64.ofDecimal? (numeral 10 (whole ++ places)) (exponent - places.length) with
  | some magnitude => .finite negative magnitude
  | none => .infinite negative

inductive Float : Text → Float64 → Prop
  | scaled {s text digits e : Text} {negative : Bool} {exponent : ℤ} : Sign s negative → Whole text digits →
      Exponent e exponent → Float (s ++ text ++ e) (nearest negative digits [] exponent)
  | fraction {s text digits f places : Text} {negative : Bool} : Sign s negative → Whole text digits →
      Digits isDigit f places → Float (s ++ text ++ '.' :: f) (nearest negative digits places 0)
  | scaledFraction {s text digits f places e : Text} {negative : Bool} {exponent : ℤ} : Sign s negative →
      Whole text digits → Digits isDigit f places → Exponent e exponent →
      Float (s ++ text ++ '.' :: f ++ e) (nearest negative digits places exponent)

inductive SpecialFloat : Text → Float64 → Prop
  | infinite {s : Text} {negative : Bool} : Sign s negative → SpecialFloat (s ++ "inf".toList) (.infinite negative)
  | notANumber {s : Text} {negative : Bool} : Sign s negative → SpecialFloat (s ++ "nan".toList) .notANumber

inductive Number (count least most : ℕ) : Text → ℕ → Prop
  | mk {text : Text} : text.length = count → Made isDigit text → least ≤ numeral 10 text → numeral 10 text ≤ most →
      Number count least most text (numeral 10 text)

def daysIn (year month : ℕ) : ℕ :=
  match month with
  | 2 => if 4 ∣ year ∧ (100 ∣ year → 400 ∣ year) then 29 else 28
  | 4 | 6 | 9 | 11 => 30
  | _ => 31

inductive Date : Text → Prop
  | mk {y m d : Text} {year month day : ℕ} : Number 4 0 9999 y year → Number 2 1 12 m month →
      Number 2 1 (daysIn year month) d day → Date (y ++ '-' :: m ++ '-' :: d)

inductive Fraction : Text → Prop
  | none : Fraction []
  | some {text : Text} : text ≠ [] → Made isDigit text → Fraction ('.' :: text)

inductive Time : Text → Prop
  | mk {h m s f : Text} {hour minute second : ℕ} : Number 2 0 23 h hour → Number 2 0 59 m minute →
      Number 2 0 60 s second → Fraction f → Time (h ++ ':' :: m ++ ':' :: s ++ f)

inductive Offset : Text → Prop
  | none : Offset []
  | zero {c : Char} : c = 'Z' ∨ c = 'z' → Offset [c]
  | shifted {c : Char} {h m : Text} {hour minute : ℕ} : c = '+' ∨ c = '-' → Number 2 0 23 h hour →
      Number 2 0 59 m minute → Offset (c :: h ++ ':' :: m)

inductive Moment : Text → Prop
  | date {text : Text} : Date text → Moment text
  | time {text : Text} : Time text → Moment text
  | dateTime {c : Char} {date time offset : Text} : Date date → c = 'T' ∨ c = 't' ∨ c = ' ' → Time time →
      Offset offset → Moment (date ++ c :: time ++ offset)

inductive SimpleKey : Text → Text → Prop
  | bare {text : Text} : text ≠ [] → Made isBare text → SimpleKey text text
  | quoted {text name : Text} : Quoted text name → SimpleKey text name

inductive Parts : Text → List Text → Prop
  | last {text name b : Text} : SimpleKey text name → Made isBlank b → Parts (text ++ b) [name]
  | more {text name b b' rest : Text} {names : List Text} : SimpleKey text name → Made isBlank b → Made isBlank b' →
      Parts rest names → Parts (text ++ b ++ '.' :: b' ++ rest) (name :: names)

inductive DottedKey (L : Limits) : Text → List Text × Text → Prop
  | mk {text : Text} {way : List Text} {key : Text} : Parts text (way ++ [key]) → L.parts (way.length + 1) →
      DottedKey L text (way, key)

inductive Scalar (L : Limits) : Text → Meaning → Prop
  | quoted {text value : Text} : Quoted text value → Scalar L text (.string value)
  | longBasic {text value : Text} : Long '"' BasicLines text value → Scalar L text (.string value)
  | longLiteral {text value : Text} : Long '\'' LiteralLines text value → Scalar L text (.string value)
  | yes : Scalar L "true".toList (.boolean true)
  | no : Scalar L "false".toList (.boolean false)
  | integer {text : Text} {n : ℤ} : Integer text n → L.integer n → Scalar L text (.integer n)
  | float {text : Text} {x : Float64} : Float text x → L.float x → Scalar L text (.float x)
  | specialFloat {text : Text} {x : Float64} : SpecialFloat text x → Scalar L text (.float x)
  | moment {text : Text} : Moment text → Scalar L text .moment

section Compound

variable (L : Limits) (Element : Text → Meaning → Prop)

inductive Elements : Text → List Meaning → Prop
  | last {g v g' : Text} {m : Meaning} : Spacing g → Element v m → Spacing g' → Elements (g ++ v ++ g') [m]
  | comma {g v g' g'' : Text} {m : Meaning} : Spacing g → Element v m → Spacing g' → Spacing g'' →
      Elements (g ++ v ++ g' ++ ',' :: g'') [m]
  | more {g v g' rest : Text} {m : Meaning} {ms : List Meaning} : Spacing g → Element v m → Spacing g' →
      Elements rest ms → Elements (g ++ v ++ g' ++ ',' :: rest) (m :: ms)

inductive KeyValue : Text → (List Text × Text) × Meaning → Prop
  | mk {k b v : Text} {name : List Text × Text} {m : Meaning} : DottedKey L k name → Made isBlank b → Element v m →
      KeyValue (k ++ '=' :: b ++ v) (name, m)

inductive Pairs : Text → List ((List Text × Text) × Meaning) → Prop
  | last {b kv b' : Text} {pair : (List Text × Text) × Meaning} : Made isBlank b → KeyValue L Element kv pair →
      Made isBlank b' → Pairs (b ++ kv ++ b') [pair]
  | more {b kv b' rest : Text} {pair : (List Text × Text) × Meaning} {pairs : List ((List Text × Text) × Meaning)} :
      Made isBlank b → KeyValue L Element kv pair → Made isBlank b' → Pairs rest pairs →
      Pairs (b ++ kv ++ b' ++ ',' :: rest) (pair :: pairs)

inductive Compound : Text → Meaning → Prop
  | emptyArray {g : Text} : Spacing g → Compound ('[' :: g ++ [']']) (.array [])
  | array {text : Text} {ms : List Meaning} : Elements Element text ms → Compound ('[' :: text ++ [']']) (.array ms)
  | emptyTable {b : Text} : Made isBlank b → Compound ('\x7b' :: b ++ ['\x7d']) (.table fun _ => none)
  | table {text : Text} {pairs : List ((List Text × Text) × Meaning)} {t : Nodes} {bindings : Bindings} :
      Pairs L Element text pairs → Gathers pairs Nodes.empty t → t.Mean bindings →
      Compound ('\x7b' :: text ++ ['\x7d']) (.table bindings)

end Compound

/-- Values with at most so many brackets around what is in them. -/
def Value (L : Limits) : ℕ → Text → Meaning → Prop
  | 0, text, m => Scalar L text m
  | depth + 1, text, m => Scalar L text m ∨ Compound L (Value L depth) text m

inductive Line (L : Limits) : Text → List Directive → Prop
  | blank {b comment : Text} : Made isBlank b → Remark comment → Line L (b ++ comment) []
  | assignment {depth : ℕ} {b kv b' comment : Text} {way : List Text} {key : Text} {m : Meaning} : Made isBlank b →
      L.depth depth → KeyValue L (Value L depth) kv ((way, key), m) → Made isBlank b' → Remark comment →
      Line L (b ++ kv ++ b' ++ comment) [.assign way key m]
  | table {b b' k b'' comment : Text} {way : List Text} {key : Text} : Made isBlank b → Made isBlank b' →
      DottedKey L k (way, key) → Made isBlank b'' → Remark comment →
      Line L (b ++ '[' :: b' ++ k ++ ']' :: b'' ++ comment) [.table way key]
  | element {b b' k b'' comment : Text} {way : List Text} {key : Text} : Made isBlank b → Made isBlank b' →
      DottedKey L k (way, key) → Made isBlank b'' → Remark comment →
      Line L (b ++ '[' :: '[' :: b' ++ k ++ ']' :: ']' :: b'' ++ comment) [.element way key]

inductive Spells (L : Limits) : Text → List Directive → Prop
  | last {text : Text} {directives : List Directive} : Line L text directives → Spells L text directives
  | more {text n rest : Text} {directives others : List Directive} : Line L text directives → Newline n →
      Spells L rest others → Spells L (text ++ n ++ rest) (directives ++ others)

def Describes (L : Limits) (text : Text) (bindings : Bindings) : Prop :=
  ∃ directives, Spells L text directives ∧ Tells directives bindings

end DeclSplit.Toml.Rules
