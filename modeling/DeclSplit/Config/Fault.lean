import DeclSplit.Text.Basic
import DeclSplit.Text.Span

/-!
Faults of configuration values.
-/

namespace DeclSplit

inductive Expected where
  | text
  | flag
  | section_
deriving DecidableEq, Repr

namespace Expected

def phrase : Expected → String
  | text => "a string"
  | flag => "a boolean"
  | section_ => "struct SplitSection"

end Expected

inductive ConfigFault where
  | wrongKind (actual : Text) (expected : Expected)
  | tooShort (length : Nat)
  | unknownMode (name : Text)
  | modeForm
  | noMode
  | manyModes
  | modeArray
  | modeTable
  | modeEntry (actual : String)
deriving DecidableEq, Repr

namespace ConfigFault

def message : ConfigFault → Text
  | wrongKind actual expected => "invalid type: " ++ actual ++ ", expected " ++ expected.phrase
  | tooShort length =>
    "invalid length " ++ Text.ofNat length ++ ", expected struct SplitSection with 4 elements"
  | unknownMode name => "unknown variant `" ++ name ++ "`, expected `substring` or `word`"
  | modeForm => "wanted string or table"
  | noMode => "wanted exactly 1 element, found 0 elements"
  | manyModes => "wanted exactly 1 element, more than 1 element"
  | modeArray => "expected empty array"
  | modeTable => "expected empty table"
  | modeEntry actual => "expected table, found " ++ (actual : Text)

end ConfigFault

end DeclSplit
