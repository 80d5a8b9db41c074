import DeclSplit.Text.Basic

/-!
Texts as the system keeps them.  File names and arguments are bytes: those that spell characters stand as these,
and any other byte is kept as it is.  Where the text is shown, a mark stands in place of stray bytes.
-/

namespace DeclSplit

inductive OsChar where
  | char (c : Char)
  | stray (byte : UInt8)
deriving DecidableEq, Repr

namespace OsChar

@[match_pattern] abbrev slash : OsChar := char '/'

def byteLength : OsChar → Nat
  | char c => c.utf8Size
  | stray _ => 1

end OsChar

abbrev OsText := List OsChar

def Text.os (text : Text) : OsText := text.map .char

instance : Coe Text OsText := ⟨Text.os⟩

instance : Coe (List Text) (List OsText) := ⟨List.map Text.os⟩

namespace OsText

def text? : OsText → Option Text
  | [] => some []
  | .char c :: rest => (text? rest).map (c :: ·)
  | .stray _ :: _ => none

def byteLength : OsText → Nat
  | [] => 0
  | unit :: rest => unit.byteLength + byteLength rest

def replacement : Char := '\uFFFD'

/-- The ranges that the bytes of a character behind its first one lie in. -/
def continuation (first : UInt8) : List (UInt8 × UInt8) :=
  let any := (0x80, 0xBF)
  if 0xC2 ≤ first && first ≤ 0xDF then [any]
  else if first = 0xE0 then [(0xA0, 0xBF), any]
  else if first = 0xED then [(0x80, 0x9F), any]
  else if 0xE1 ≤ first && first ≤ 0xEF then [any, any]
  else if first = 0xF0 then [(0x90, 0xBF), any, any]
  else if 0xF1 ≤ first && first ≤ 0xF3 then [any, any, any]
  else if first = 0xF4 then [(0x80, 0x8F), any, any]
  else []

/-- One mark stands for all bytes that begin a character and do not finish it. -/
def showFrom : (awaited : List (UInt8 × UInt8)) → OsText → Text
  | _, [] => []
  | _, .char c :: rest => c :: showFrom [] rest
  | [], .stray b :: rest => replacement :: showFrom (continuation b) rest
  | (low, high) :: more, .stray b :: rest =>
    if low ≤ b && b ≤ high then showFrom more rest else replacement :: showFrom (continuation b) rest

def shown (text : OsText) : Text := showFrom [] text

end OsText

end DeclSplit
