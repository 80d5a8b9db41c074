import DeclSplit.Proofs.Syntax.Words
import DeclSplit.Proofs.Text.Matches
import Mathlib.Data.List.TakeWhile

/-! Identifiers inside identifiers.  Some characters are parts of names in a program, but not of words in
running text; next to one of these a name is mentioned by a longer one. -/

namespace DeclSplit

open Text

variable {c : Char} {name text : Text}

/-- A text that is read as one word from end to end, without escapes. -/
def IsIdentifierName (text : Text) : Prop := Lexeme.read text = Lexeme.plain (Lexeme.wordKind text) text.length

instance (text : Text) : Decidable (IsIdentifierName text) := inferInstanceAs (Decidable (_ = _))

namespace Lexeme

lemma isWord_wordKind (chars : Text) : (wordKind chars).isWord = true := by
  rw [wordKind]
  split <;> rfl

lemma ofWord_eq_plain_iff :
    ofWord text = plain (wordKind text) text.length ↔ ∀ c ∈ text, isNamePart c = true := by
  constructor
  · intro h
    simp only [ofWord] at h
    split at h
    · simp [plain] at h
    · have hlength : (text.takeWhile isNamePart).length = text.length := congrArg Lexeme.length h
      exact List.takeWhile_eq_self_iff.mp ((List.takeWhile_prefix _).eq_of_length hlength)
  · intro h
    simp [ofWord, List.takeWhile_eq_self_iff.mpr h]

lemma front_of_opensName (h : opensName c = true) : front (c :: text) = ofWord (c :: text) := by
  have hne : ∀ d, opensName d = false → c ≠ d := by
    rintro d hd rfl
    simp [h] at hd
  rw [front, if_pos h]
  · exact hne '`' (by decide)
  · exact hne '#' (by decide)
  · exact fun _ _ h _ => hne '.' (by decide) h

end Lexeme

lemma isIdentifierName_iff : IsIdentifierName text ↔
    ∃ first rest, text = first :: rest ∧ isNameStart first = true ∧ ∀ c ∈ rest, isNamePart c = true := by
  constructor
  · intro h
    have hfront : Lexeme.front text = Lexeme.plain (Lexeme.wordKind text) text.length := h
    have hword : (Lexeme.front text).kind.isWord = true := by
      rw [hfront]
      exact Lexeme.isWord_wordKind text
    obtain ⟨first, rest, rfl, hopens, hread⟩ := Lexeme.front_of_isWord hword
    have hparts := Lexeme.ofWord_eq_plain_iff.mp (hread.symm.trans hfront)
    obtain ⟨hfirst, hrest⟩ := List.forall_mem_cons.mp hparts
    have hplain : first ≠ '\\' := by
      rintro rfl
      exact absurd hfirst (by decide)
    exact ⟨first, rest, rfl, by simpa [opensName, hplain] using hopens, hrest⟩
  · rintro ⟨first, rest, rfl, hstart, hrest⟩
    have hparts : ∀ c ∈ first :: rest, isNamePart c = true :=
      List.forall_mem_cons.mpr ⟨isNamePart_of_isNameStart hstart, hrest⟩
    have hopens : opensName first = true := by simp [opensName, hstart]
    exact (Lexeme.front_of_opensName hopens).trans (Lexeme.ofWord_eq_plain_iff.mpr hparts)

lemma IsIdentifierName.ne_nil (h : IsIdentifierName text) : text ≠ [] := by
  obtain ⟨first, rest, rfl, -⟩ := isIdentifierName_iff.mp h
  exact List.cons_ne_nil _ _

lemma IsIdentifierName.isNamePart (h : IsIdentifierName text) : ∀ c ∈ text, isNamePart c = true := by
  obtain ⟨first, rest, rfl, hstart, hrest⟩ := isIdentifierName_iff.mp h
  exact List.forall_mem_cons.mpr ⟨isNamePart_of_isNameStart hstart, hrest⟩

def isBoundaryPart (c : Char) : Bool := isNamePart c && !isIdentifierChar c

lemma isBoundaryPart_iff (h : isNamePart c = true) : isBoundaryPart c = true ↔ isIdentifierChar c = false := by
  simp [isBoundaryPart, h]

lemma references_iff_boundaryParts (hn : name ≠ []) (ht : IsIdentifierName text) :
    references text name .word = true ↔ ∃ before after, Match name text before after ∧
      (∀ c ∈ before.getLast?, isBoundaryPart c = true) ∧ ∀ c ∈ after.head?, isBoundaryPart c = true := by
  rw [references_word_iff hn]
  refine exists_congr fun before => exists_congr fun after => and_congr_right fun hmatch => ?_
  have hpart : ∀ c, c ∈ before ∨ c ∈ after → (isIdentifierChar c = false ↔ isBoundaryPart c = true) := by
    intro c hc
    exact (isBoundaryPart_iff (ht.isNamePart c (hmatch.mem hc))).symm
  refine and_congr (forall₂_congr fun c hc => ?_) (forall₂_congr fun c hc => ?_)
  · exact hpart c (.inl (List.mem_of_getLast? hc))
  · exact hpart c (.inr (List.mem_of_mem_head? hc))

theorem identifier_inside_identifier_iff (hn : IsIdentifierName name) (ht : IsIdentifierName text)
    (hne : name ≠ text) :
    (references text name .word = true ↔ ∃ before after, Match name text before after ∧
      (∀ c ∈ before.getLast?, isBoundaryPart c = true) ∧ ∀ c ∈ after.head?, isBoundaryPart c = true) ∧
    ((∀ c ∈ text, isIdentifierChar c = true) → references text name .word = false) := by
  refine ⟨references_iff_boundaryParts hn.ne_nil ht, ?_⟩
  intro hall
  by_contra href
  obtain ⟨hn', halone⟩ := standsAlone_of_references (by simpa using href)
  exact hne (halone.eq_of_run hn' hall)

theorem joined_identifier_mentions_part :
    IsIdentifierName "ün" ∧ IsIdentifierName "ününün" ∧ IsIdentifierName "ün\u200dx" ∧
    references "ününün" "ün" .word = false ∧
    ∃ before after, Match "ün" "ün\u200dx" before after ∧
      (∀ c ∈ before.getLast?, isBoundaryPart c = true) ∧ ∀ c ∈ after.head?, isBoundaryPart c = true := by
  have hn : IsIdentifierName "ün" := by decide +kernel
  have ht : IsIdentifierName "ününün" := by decide +kernel
  have ht' : IsIdentifierName "ün\u200dx" := by decide +kernel
  obtain ⟨-, hapart⟩ := identifier_inside_identifier_iff hn ht (by decide)
  obtain ⟨hinside, -⟩ := identifier_inside_identifier_iff hn ht' (by decide)
  exact ⟨hn, ht, ht', hapart (List.all_eq_true.mp (by decide +kernel)), hinside.mp (by decide +kernel)⟩

theorem accented_letter_mentions_letter :
    IsIdentifierName "A" ∧ IsIdentifierName "A\u0301" ∧ "A".toList ≠ "A\u0301".toList ∧
      Lexeme.wordKind "A" = .name ∧ Lexeme.wordKind "A\u0301" = .name ∧
      references "A\u0301" "A" .word = true := by
  decide +kernel

end DeclSplit
