import DeclSplit.Reference
import DeclSplit.Text.Bytes
import Mathlib.Data.List.Infix

/-! Where a name stands in a text, and that it is found there. -/

namespace DeclSplit.Text

variable {name before after text : Text}

lemma mentions_iff : mentions name text = true ↔ name <:+: text := by
  induction text with
  | nil => simp [mentions, List.infix_nil]
  | cons c r ih => simp [mentions, ih, List.infix_cons_iff]

lemma references_substring_iff : references text name .substring = true ↔ name ≠ [] ∧ name <:+: text := by
  simp [references, mentions_iff]

lemma mentionsWordFrom_of_delimited {neighbour : Option Char} {covered : ℕ} (hn : name ≠ [])
    (hc : covered ≤ before.length) (hf : before = [] → isBoundary neighbour = true)
    (hl : ∀ c ∈ before.getLast?, c ∉ name ∧ isIdentifierChar c = false)
    (hb : isBoundary after.head? = true) :
    mentionsWordFrom name neighbour covered (before ++ (name ++ after)) = true := by
  induction before generalizing neighbour covered with
  | nil =>
    obtain rfl : covered = 0 := Nat.le_zero.mp hc
    obtain ⟨first, others, rfl⟩ := List.exists_cons_of_ne_nil hn
    have hprefix : (first :: others).isPrefixOf (first :: (others ++ after)) = true := by simp
    have hrest : (first :: (others ++ after)).drop (first :: others).length = after := by simp
    simp only [List.nil_append, List.cons_append, mentionsWordFrom, if_pos hprefix, hrest, hf rfl, hb,
      Bool.and_self, Bool.true_or]
  | cons c rest ih =>
    have hlast : ∀ d ∈ rest.getLast?, d ∉ name ∧ isIdentifierChar d = false := by
      intro d hd
      apply hl
      rw [List.getLast?_cons]
      simp_all
    have hnext : rest = [] → isBoundary (some c) = true := by
      rintro rfl
      simp [isBoundary, (hl c rfl).2]
    cases covered with
    | succ n => exact ih (Nat.le_of_succ_le_succ hc) hnext hlast
    | zero =>
      simp only [List.cons_append, mentionsWordFrom]
      split
      · rename_i hprefix
        -- a match that began here and reached the name would hold the character in front of the name
        have hshort : name.length ≤ (c :: rest).length := by
          by_contra hlong
          have hwhole : c :: rest <+: name := by
            refine List.prefix_of_prefix_length_le (List.prefix_append _ (name ++ after)) ?_ (by omega)
            exact List.isPrefixOf_iff_prefix.mp hprefix
          obtain ⟨d, hd⟩ := Option.isSome_iff_exists.mp (by simp : (c :: rest).getLast?.isSome = true)
          exact (hl d hd).1 (hwhole.subset (List.mem_of_getLast? hd))
        rw [ih (by simp at hshort; omega) hnext hlast, Bool.or_true]
      · exact ih (Nat.zero_le _) hnext hlast

lemma references_of_delimited (hn : name ≠ [])
    (hl : ∀ c ∈ before.getLast?, c ∉ name ∧ isIdentifierChar c = false)
    (hb : ∀ c ∈ after.head?, isIdentifierChar c = false) (mode : MatchMode) :
    references (before ++ name ++ after) name mode = true := by
  cases mode with
  | substring => exact references_substring_iff.mpr ⟨hn, List.infix_append _ _ _⟩
  | word =>
    have hend : isBoundary after.head? = true := by
      cases h : after.head? with
      | none => rfl
      | some c => simp [isBoundary, hb c h]
    have hfound : mentionsWordFrom name none 0 (before ++ (name ++ after)) = true :=
      mentionsWordFrom_of_delimited hn (Nat.zero_le _) (fun _ => rfl) hl hend
    simpa [references, hn] using hfound

lemma dropBytes_append_of_le {n : ℕ} (h : n ≤ byteLength before) :
    dropBytes n (before ++ after) = dropBytes n before ++ after := by
  induction before generalizing n with
  | nil =>
    obtain rfl : n = 0 := Nat.le_zero.mp h
    cases after <;> rfl
  | cons c rest ih =>
    cases n with
    | zero => rfl
    | succ n =>
      rw [byteLength_cons] at h
      exact ih (by omega)

lemma byteLength_dropBytes_le (n : ℕ) (text : Text) : byteLength (dropBytes n text) ≤ byteLength text - n := by
  induction text generalizing n with
  | nil => simp [dropBytes]
  | cons c rest ih =>
    cases n with
    | zero => exact Nat.le_refl _
    | succ n =>
      have := ih (n + 1 - c.utf8Size)
      rw [byteLength_cons]
      simp only [dropBytes]
      omega

lemma takeBytes_prefix (n : ℕ) (text : Text) : takeBytes n text <+: text := by
  induction text generalizing n with
  | nil => exact List.prefix_rfl
  | cons c rest ih =>
    cases n with
    | zero => exact List.nil_prefix
    | succ n => exact List.cons_prefix_cons.mpr ⟨rfl, ih _⟩

lemma takeBytes_append_of_le {n : ℕ} (h : byteLength before ≤ n) :
    takeBytes n (before ++ after) = before ++ takeBytes (n - byteLength before) after := by
  induction before generalizing n with
  | nil => rfl
  | cons c rest ih =>
    rw [byteLength_cons] at h
    have := c.utf8Size_pos
    obtain ⟨m, rfl⟩ : ∃ m, n = m + 1 := ⟨n - 1, by omega⟩
    have hrest : byteLength rest ≤ m + 1 - c.utf8Size := by omega
    simp only [List.cons_append, takeBytes, ih hrest, byteLength_cons, Nat.sub_sub]

lemma slice_around {start stop : ℕ} (hs : start ≤ byteLength before)
    (ht : byteLength (before ++ name) ≤ stop) :
    ∃ front back, slice (before ++ name ++ after) start stop = front ++ name ++ back ∧ back <+: after := by
  have hdrop := byteLength_dropBytes_le start before
  rw [byteLength_append] at ht
  have hfits : byteLength (dropBytes start before ++ name) ≤ stop - start := by
    rw [byteLength_append]
    omega
  refine ⟨dropBytes start before, takeBytes (stop - start - byteLength (dropBytes start before ++ name)) after,
    ?_, takeBytes_prefix _ _⟩
  rw [slice, List.append_assoc, dropBytes_append_of_le hs, ← List.append_assoc, takeBytes_append_of_le hfits]

end DeclSplit.Text
