import DeclSplit.Text.Basic
import DeclSplit.Unicode.Alphanumeric

/-!
References: whether a text mentions a name, anywhere or as a word of its own.
-/

namespace DeclSplit

inductive MatchMode where
  | substring
  | word
deriving DecidableEq, Repr

instance : Inhabited MatchMode := ⟨.substring⟩

namespace MatchMode

def spelling : MatchMode → String
  | substring => "substring"
  | word => "word"

def ofSpelling? (text : Text) : Option MatchMode :=
  if text = "substring" then some substring
  else if text = "word" then some word
  else none

end MatchMode

namespace Text

def isIdentifierChar (c : Char) : Bool := c == '_' || c == '$' || Unicode.isAlphanumeric c

def mentions (name : Text) : Text → Bool
  | [] => name.isEmpty
  | c :: r => name.isPrefixOf (c :: r) || mentions name r

def isBoundary (neighbour : Option Char) : Bool := !neighbour.any isIdentifierChar

/-- Goes through the matches of a name from left to right, each beginning behind the one before, and looks for
one with a boundary on both sides.  `covered` characters belong to the last match still. -/
def mentionsWordFrom (name : Text) (before : Option Char) (covered : Nat) : Text → Bool
  | [] => false
  | c :: r =>
    match covered with
    | n + 1 => mentionsWordFrom name (some c) n r
    | 0 =>
      if name.isPrefixOf (c :: r) then
        (isBoundary before && isBoundary ((c :: r).drop name.length).head?) ||
          mentionsWordFrom name (some c) (name.length - 1) r
      else mentionsWordFrom name (some c) 0 r

def references (text name : Text) (mode : MatchMode) : Bool :=
  !name.isEmpty &&
    match mode with
    | .substring => mentions name text
    | .word => mentionsWordFrom name none 0 text

end Text

end DeclSplit
