import DeclSplit.Proofs.Text.WholeWords

/-! The matches of a name in a text from left to right.  A name is mentioned as a word exactly when one of them
has no identifier character next to it; a match that overlaps the one before is none of them. -/

namespace DeclSplit.Text

variable {name text before after : Text} {neighbour : Option Char}

def IsFirst (name before after : Text) : Prop :=
  ∀ front back, before ++ name ++ after = front ++ name ++ back → before.length ≤ front.length

/-- The matches of a name in a text, each told by what stands in front of it and what behind it: the first
occurrence, and then those in the text behind that. -/
inductive Match (name : Text) : Text → Text → Text → Prop
  | first {before after : Text} : IsFirst name before after → Match name (before ++ name ++ after) before after
  | later {front rest before after : Text} : IsFirst name front rest → Match name rest before after →
      Match name (front ++ name ++ rest) (front ++ name ++ before) after

lemma Match.eq (h : Match name text before after) : text = before ++ name ++ after := by
  induction h with
  | first => rfl
  | later _ _ ih =>
    rw [ih]
    simp only [List.append_assoc]

lemma Match.mem {c : Char} (h : Match name text before after) (hc : c ∈ before ∨ c ∈ after) : c ∈ text := by
  rw [h.eq, List.mem_append, List.mem_append]
  exact hc.imp_left Or.inl

lemma IsFirst.not_prefix {c : Char} (h : IsFirst name (c :: before) after) :
    ¬ name <+: c :: (before ++ name ++ after) := by
  rintro ⟨back, hback⟩
  have hshort := h [] back (by simpa using hback.symm)
  simp at hshort

lemma IsFirst.tail {c : Char} (h : IsFirst name (c :: before) after) : IsFirst name before after := by
  intro front back heq
  have hlonger := h (c :: front) back (by simpa using heq)
  simpa using hlonger

lemma exists_first (h : name <:+: text) :
    ∃ before after, text = before ++ name ++ after ∧ IsFirst name before after := by
  induction text with
  | nil =>
    obtain rfl := List.infix_nil.mp h
    exact ⟨[], [], rfl, fun _ _ _ => Nat.zero_le _⟩
  | cons c text ih =>
    by_cases hprefix : name <+: c :: text
    · obtain ⟨after, hafter⟩ := hprefix
      exact ⟨[], after, hafter.symm, fun _ _ _ => Nat.zero_le _⟩
    · obtain ⟨before, after, rfl, hfirst⟩ := ih ((List.infix_cons_iff.mp h).resolve_left hprefix)
      refine ⟨c :: before, after, rfl, ?_⟩
      intro front back heq
      cases front with
      | nil => exact absurd ⟨back, heq.symm⟩ hprefix
      | cons c' front =>
        have hle := hfirst front back (List.cons.inj heq).2
        simpa using hle

lemma getLast?_cons_or (c : Char) (passed : Text) (neighbour : Option Char) :
    (c :: passed).getLast?.or neighbour = passed.getLast?.or (some c) := by
  rw [List.getLast?_cons]
  cases passed.getLast? <;> rfl

lemma mentionsWordFrom_covered (covered text : Text) :
    mentionsWordFrom name neighbour covered.length (covered ++ text) =
      mentionsWordFrom name (covered.getLast?.or neighbour) 0 text := by
  induction covered generalizing neighbour with
  | nil => rfl
  | cons c covered ih =>
    rw [List.length_cons, List.cons_append, mentionsWordFrom, ih, getLast?_cons_or]

lemma mentionsWordFrom_first (hn : name ≠ []) (h : IsFirst name before after) :
    mentionsWordFrom name neighbour 0 (before ++ name ++ after) =
      (isBoundary (before.getLast?.or neighbour) && isBoundary after.head? ||
        mentionsWordFrom name ((before ++ name).getLast?.or neighbour) 0 after) := by
  induction before generalizing neighbour with
  | nil =>
    obtain ⟨first, others, rfl⟩ := List.exists_cons_of_ne_nil hn
    have hprefix : (first :: others).isPrefixOf (first :: (others ++ after)) = true := by simp
    have hrest : (first :: (others ++ after)).drop (first :: others).length = after := by simp
    rw [List.nil_append, List.cons_append, mentionsWordFrom, if_pos hprefix, hrest, List.length_cons,
      Nat.add_sub_cancel, mentionsWordFrom_covered, getLast?_cons_or]
    rfl
  | cons c before ih =>
    have hnot : ¬ name.isPrefixOf (c :: (before ++ name ++ after)) = true := by
      rw [List.isPrefixOf_iff_prefix]
      exact h.not_prefix
    rw [List.cons_append, List.cons_append, mentionsWordFrom, if_neg hnot, ih h.tail, getLast?_cons_or,
      getLast?_cons_or]

lemma mentionsWordFrom_iff (hn : name ≠ []) : mentionsWordFrom name neighbour 0 text = true ↔
    ∃ before after, Match name text before after ∧ isBoundary (before.getLast?.or neighbour) = true ∧
      isBoundary after.head? = true := by
  constructor
  · intro h
    induction hl : text.length using Nat.strong_induction_on generalizing text neighbour with
    | _ n ih =>
      obtain ⟨front, rest, hwithin, -⟩ := delimited_of_mentionsWordFrom h
      obtain ⟨before, after, rfl, hfirst⟩ := exists_first ⟨front, rest, hwithin.symm⟩
      rw [mentionsWordFrom_first hn hfirst, Bool.or_eq_true, Bool.and_eq_true] at h
      rcases h with ⟨hb, ha⟩ | hlater
      · exact ⟨before, after, .first hfirst, hb, ha⟩
      · have hshorter : after.length < n := by
          have := List.length_pos_iff.mpr hn
          simp only [List.length_append] at hl
          omega
        obtain ⟨before', after', hmatch, hb, ha⟩ := ih after.length hshorter hlater rfl
        refine ⟨before ++ name ++ before', after', .later hfirst hmatch, ?_, ha⟩
        rwa [List.getLast?_append, Option.or_assoc]
  · rintro ⟨before, after, hmatch, hb, ha⟩
    induction hmatch generalizing neighbour with
    | first hfirst => rw [mentionsWordFrom_first hn hfirst, hb, ha, Bool.and_self, Bool.true_or]
    | later hfirst _ ih =>
      rw [List.getLast?_append, Option.or_assoc] at hb
      rw [mentionsWordFrom_first hn hfirst, ih hb ha, Bool.or_true]

theorem references_word_iff (hn : name ≠ []) : references text name .word = true ↔
    ∃ before after, Match name text before after ∧ (∀ c ∈ before.getLast?, isIdentifierChar c = false) ∧
      ∀ c ∈ after.head?, isIdentifierChar c = false := by
  have hscan : references text name .word = mentionsWordFrom name none 0 text := by simp [references, hn]
  rw [hscan, mentionsWordFrom_iff hn]
  simp only [Option.or_none, isBoundary_iff]

end DeclSplit.Text
