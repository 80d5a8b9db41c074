/-!
Texts are lists of characters, so that what is cut out of a text, put in front of it or found in it can be
followed character by character.  A string stands for the text that it spells.
-/

namespace DeclSplit

abbrev Text := List Char

instance : Coe String Text := ⟨String.toList⟩

namespace Text

def join (separator : Text) : List Text → Text
  | [] => []
  | [only] => only
  | first :: rest => first ++ separator ++ join separator rest

section Pieces

variable {α : Type} [DecidableEq α]

def joined (mark : α) : List (List α) → List α
  | [] => []
  | [only] => only
  | first :: rest => first ++ mark :: joined mark rest

def pieces (mark : α) : List α → List (List α)
  | [] => [[]]
  | c :: r =>
    match pieces mark r with
    | [] => [[c]]
    | piece :: others => if c = mark then [] :: piece :: others else (c :: piece) :: others

theorem pieces_ne_nil (mark : α) (text : List α) : pieces mark text ≠ [] := by
  cases text with
  | nil => simp [pieces]
  | cons c r =>
    simp only [pieces]
    split
    · simp
    · split <;> simp

theorem joined_pieces (mark : α) (text : List α) : joined mark (pieces mark text) = text := by
  induction text with
  | nil => rfl
  | cons c r ih =>
    simp only [pieces]
    split
    · rename_i h
      exact absurd h (pieces_ne_nil mark r)
    · rename_i piece others h
      rw [h] at ih
      split
      · rename_i same
        subst same
        simp [joined, ih]
      · cases others <;> simp_all [joined]

end Pieces

def ofNat (n : Nat) : Text := Nat.toDigits 10 n

end Text

end DeclSplit
