import DeclSplit.Text.Basic

/-!
Faults of a configuration text: where it breaks off, what was being read there and what would have fitted.
-/

namespace DeclSplit.Toml

inductive Construct where
  | key
  | tableHeader
  | value
  | basicString
  | literalString
  | longBasicString
  | longLiteralString
  | escape
  | shortCode
  | longCode
  | array
  | inlineTable
  | integer
  | hexadecimal
  | octal
  | binary
  | float
  | dateTime
  | time
  | timeOffset
deriving DecidableEq, Repr

namespace Construct

def phrase : Construct → String
  | key => "key"
  | tableHeader => "table header"
  | value => "string"
  | basicString => "basic string"
  | literalString => "literal string"
  | longBasicString => "multiline basic string"
  | longLiteralString => "multiline literal string"
  | escape => "escape sequence"
  | shortCode => "unicode 4-digit hex code"
  | longCode => "unicode 8-digit hex code"
  | array => "array"
  | inlineTable => "inline table"
  | integer => "integer"
  | hexadecimal => "hexadecimal integer"
  | octal => "octal integer"
  | binary => "binary integer"
  | float => "floating-point number"
  | dateTime => "date-time"
  | time => "time"
  | timeOffset => "time offset"

end Construct

inductive Wanted where
  | char (c : Char)
  | mark (spelling : String)
  | newline
  | digit
  | leadingDigit
deriving DecidableEq, Repr

namespace Wanted

def phrase : Wanted → Text
  | char c => "`" ++ c :: "`"
  | mark spelling => "`" ++ spelling ++ "`"
  | newline => "newline"
  | digit => "digit"
  | leadingDigit => "leading digit"

end Wanted

inductive Cause where
  | duplicateKey (key : Text) (table : Option (List Text))
  | notTable (path : List Text) (actual : String)
  | outOfRange
  | tooDeep
  | tooLarge
  | tooSmall
deriving DecidableEq, Repr

namespace Cause

def message : Cause → Text
  | duplicateKey key none => "duplicate key `" ++ key ++ "`"
  | duplicateKey key (some []) => "duplicate key `" ++ key ++ "` in document root"
  | duplicateKey key (some table) =>
    "duplicate key `" ++ key ++ "` in table `" ++ Text.join "." table ++ "`"
  | notTable path actual =>
    "dotted key `" ++ Text.join "." path ++ "` attempted to extend non-table type (" ++ actual ++ ")"
  | outOfRange => "value is out of range"
  | tooDeep => "recursion limit exceeded"
  | tooLarge => "number too large to fit in target type"
  | tooSmall => "number too small to fit in target type"

end Cause

structure Fault where
  offset : Nat
  construct : Option Construct
  wanted : List Wanted
  cause : Option Cause
deriving DecidableEq, Repr

namespace Fault

def at_ (offset : Nat) : Fault := ⟨offset, none, [], none⟩

def message (fault : Fault) : Text :=
  let construct : List Text := (fault.construct.map fun c => "invalid " ++ (c.phrase : Text)).toList
  let wanted : List Text :=
    if fault.wanted.isEmpty then [] else ["expected " ++ Text.join ", " (fault.wanted.map Wanted.phrase)]
  Text.join "\n" (construct ++ wanted ++ (fault.cause.map Cause.message).toList)

end Fault

end DeclSplit.Toml
