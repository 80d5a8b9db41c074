import DeclSplit.Text.Basic

/-!
Similar words: which of several words someone may have meant.  Two words are compared by the characters that
they share at about the same place (Jaro's measure), in whole numbers.
-/

namespace DeclSplit.Similarity

def takePlace (c : Char) : (low count : Nat) → List (Char × Bool) → Option (List (Char × Bool))
  | _, _, [] => none
  | _, 0, _ => none
  | low, count + 1, (d, taken) :: rest =>
    if low = 0 && c = d && !taken then some ((d, true) :: rest)
    else (takePlace c (low - 1) count rest).map ((d, taken) :: ·)

/-- The characters of a word that find a place in another, with the places as they are left.  A character reaches
as many places to either side as `reach` says. -/
def share (reach : Nat) : (position : Nat) → Text → List (Char × Bool) → Text × List (Char × Bool)
  | _, [], places => ([], places)
  | position, c :: r, places =>
    match takePlace c (position - reach) (position + reach + 1) places with
    | some taken =>
      let (shared, left) := share reach (position + 1) r taken
      (c :: shared, left)
    | none => share reach (position + 1) r places

def reach (word other : Text) : Nat := max word.length other.length / 2 - 1

structure Score where
  numerator : Nat
  denominator : Nat
deriving DecidableEq, Repr

def score (word other : Text) : Score :=
  let (shared, places) := share (reach word other) 0 word (other.map (·, false))
  let found := (places.filter (·.2)).map (·.1)
  let swaps := ((shared.zip found).filter fun (c, d) => c ≠ d).length / 2
  let m := shared.length
  if m = 0 then ⟨0, 1⟩ else
    ⟨m * m * other.length + m * m * word.length + (m - swaps) * word.length * other.length,
      3 * m * word.length * other.length⟩

namespace Score

def isHigh (s : Score) : Bool := 7 * s.denominator ≤ 10 * s.numerator

def le (s t : Score) : Bool := s.numerator * t.denominator ≤ t.numerator * s.denominator

end Score

def insertByScore (word : Text) (s : Score) : List (Text × Score) → List (Text × Score)
  | [] => [(word, s)]
  | (other, t) :: rest =>
    if t.le s then (other, t) :: insertByScore word s rest else (word, s) :: (other, t) :: rest

def similar (word : Text) (choices : List Text) : List Text :=
  (choices.foldl (fun found choice =>
    let s := score word choice
    if s.isHigh then insertByScore choice s found else found) []).map (·.1)

def mostSimilar? (word : Text) (choices : List Text) : Option Text := (similar word choices).getLast?

end DeclSplit.Similarity
