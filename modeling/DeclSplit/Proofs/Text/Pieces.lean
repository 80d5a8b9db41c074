import DeclSplit.Text.Basic
import DeclSplit.Text.Bytes
import Mathlib.Data.List.Basic
import Mathlib.Tactic.Lemma

/-! Pieces of texts, cut apart at a character and joined. -/

namespace DeclSplit

namespace Text

variable {α : Type} {mark : α} {text piece first rest : List α}

lemma mem_join {c : Char} {separator piece : Text} {pieces : List Text} (hc : c ∈ piece)
    (hp : piece ∈ pieces) : c ∈ join separator pieces := by
  induction pieces with
  | nil => cases hp
  | cons first rest ih =>
    cases rest with
    | nil =>
      obtain rfl := List.mem_singleton.mp hp
      exact hc
    | cons second rest =>
      rw [join]
      · rcases List.mem_cons.mp hp with rfl | hp
        · exact List.mem_append_left _ (List.mem_append_left _ hc)
        · exact List.mem_append_right _ (ih hp)
      · simp

lemma joined_cons {texts : List (List α)} (hn : texts ≠ []) :
    joined mark (first :: texts) = first ++ mark :: joined mark texts :=
  joined.eq_3 _ _ _ hn

lemma joined_sublist (mark : α) {texts others : List (List α)} (h : texts.Sublist others) :
    (joined mark texts).Sublist (joined mark others) := by
  induction h with
  | slnil => exact .refl _
  | @cons texts others first h ih =>
    cases others with
    | nil =>
      obtain rfl := List.sublist_nil.mp h
      exact List.nil_sublist _
    | cons second others =>
      rw [joined_cons (List.cons_ne_nil _ _)]
      exact ih.trans ((List.sublist_cons_self _ _).trans (List.sublist_append_right _ _))
  | @cons_cons texts others first h ih =>
    cases texts with
    | nil =>
      cases others with
      | nil => exact .refl _
      | cons second others =>
        rw [joined_cons (List.cons_ne_nil _ _)]
        exact List.sublist_append_left _ _
    | cons second texts =>
      have hn : others ≠ [] := fun e => by simp [e] at h
      rw [joined_cons (List.cons_ne_nil _ _), joined_cons hn]
      exact (ih.cons_cons mark).append_left first

variable [DecidableEq α]

lemma pieces_cons (mark c : α) (text : List α) : ∃ piece others, pieces mark text = piece :: others ∧
    pieces mark (c :: text) = if c = mark then [] :: piece :: others else (c :: piece) :: others := by
  cases h : pieces mark text with
  | nil => exact absurd h (pieces_ne_nil mark text)
  | cons piece others => exact ⟨piece, others, rfl, by simp only [pieces, h]⟩

lemma pieces_append (mark : α) (first rest : List α) :
    pieces mark (first ++ mark :: rest) = pieces mark first ++ pieces mark rest := by
  induction first with
  | nil =>
    obtain ⟨piece, others, hp, hc⟩ := pieces_cons mark mark rest
    rw [List.nil_append, hc, if_pos rfl, hp]
    rfl
  | cons c first ih =>
    obtain ⟨piece, others, hp, hc⟩ := pieces_cons mark c first
    obtain ⟨piece', others', hp', hc'⟩ := pieces_cons mark c (first ++ mark :: rest)
    rw [ih, hp, List.cons_append] at hp'
    cases hp'
    rw [List.cons_append, hc, hc']
    split <;> rfl

lemma pieces_of_notMem (h : mark ∉ text) : pieces mark text = [text] := by
  induction text with
  | nil => rfl
  | cons c text ih =>
    obtain ⟨hc, ht⟩ := List.ne_and_not_mem_of_not_mem_cons h
    simp only [pieces, ih ht]
    exact if_neg (Ne.symm hc)

lemma notMem_of_mem_pieces (h : piece ∈ pieces mark text) : mark ∉ piece := by
  induction text generalizing piece with
  | nil =>
    obtain rfl := List.mem_singleton.mp h
    exact List.not_mem_nil
  | cons c text ih =>
    obtain ⟨first, others, hp, hc⟩ := pieces_cons mark c text
    rw [hc] at h
    rw [hp] at ih
    split at h
    · rcases List.mem_cons.mp h with rfl | h
      · exact List.not_mem_nil
      · exact ih h
    · rename_i hne
      rcases List.mem_cons.mp h with rfl | h
      · exact List.not_mem_cons_of_ne_of_not_mem (Ne.symm hne) (ih List.mem_cons_self)
      · exact ih (List.mem_cons_of_mem _ h)

lemma pieces_joined {texts : List (List α)} (h : ∀ text ∈ texts, mark ∉ text) (hn : texts ≠ []) :
    pieces mark (joined mark texts) = texts := by
  induction texts with
  | nil => exact absurd rfl hn
  | cons first texts ih =>
    have hf := h first List.mem_cons_self
    cases texts with
    | nil => exact pieces_of_notMem hf
    | cons second texts =>
      rw [joined_cons (List.cons_ne_nil _ _), pieces_append, pieces_of_notMem hf,
        ih (fun text ht => h text (List.mem_cons_of_mem _ ht)) (List.cons_ne_nil _ _)]
      rfl

end Text

end DeclSplit
