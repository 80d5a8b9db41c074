import DeclSplit.Proofs.Text.Mentions

/-! The words of a text are its longest runs of identifier characters.  A name of such characters is mentioned as
a word exactly when it is one of them. -/

namespace DeclSplit.Text

variable {name before after text word : Text} {mark : Char}

def words (text : Text) : List Text := (text.splitOnP (!isIdentifierChar ·)).filter (· ≠ [])

def StandsAlone (word text : Text) : Prop :=
  ∃ before after, text = before ++ word ++ after ∧ (∀ c ∈ before.getLast?, isIdentifierChar c = false) ∧
    ∀ c ∈ after.head?, isIdentifierChar c = false

lemma words_append (x y : Text) (hm : isIdentifierChar mark = false) :
    words (x ++ mark :: y) = words x ++ words y := by
  rw [words, List.splitOnP_append_cons x y (by simp [hm]), List.filter_append]
  rfl

lemma words_of_run (hn : word ≠ []) (hi : ∀ c ∈ word, isIdentifierChar c = true) : words word = [word] := by
  have hwhole : word.splitOnP (!isIdentifierChar ·) = [word] := by
    apply List.splitOnP_eq_singleton
    intro c hc
    simp [hi c hc]
  simp [words, hwhole, hn]

lemma StandsAlone.mem_words (h : StandsAlone word text) (hn : word ≠ [])
    (hi : ∀ c ∈ word, isIdentifierChar c = true) : word ∈ words text := by
  obtain ⟨before, after, rfl, hb, ha⟩ := h
  have hfront : word ∈ words (word ++ after) := by
    cases after with
    | nil => simp [words_of_run hn hi]
    | cons mark after =>
      rw [words_append word after (ha mark rfl), words_of_run hn hi]
      simp
  rw [List.append_assoc]
  rcases before.eq_nil_or_concat with rfl | ⟨front, mark, rfl⟩
  · exact hfront
  · have hmark := hb mark (by simp)
    simp only [List.concat_eq_append, List.append_assoc, List.singleton_append]
    rw [words_append front (word ++ after) hmark]
    exact List.mem_append_right _ hfront

lemma StandsAlone.eq_of_run (h : StandsAlone word text) (hn : word ≠ [])
    (hi : ∀ c ∈ text, isIdentifierChar c = true) : word = text := by
  have hwithin : word <:+: text := by
    obtain ⟨before, after, ht, -⟩ := h
    exact ⟨before, after, ht.symm⟩
  have hmem := h.mem_words hn fun c hc => hi c (hwithin.subset hc)
  have hrun : text ≠ [] := by
    rintro rfl
    exact hn (List.infix_nil.mp hwithin)
  rw [words_of_run hrun hi] at hmem
  exact List.mem_singleton.mp hmem

lemma StandsAlone.behind (h : StandsAlone word after) (hm : isIdentifierChar mark = false) (front : Text) :
    StandsAlone word (front ++ mark :: after) := by
  obtain ⟨before, rest, rfl, hb, ha⟩ := h
  refine ⟨front ++ mark :: before, rest, by simp, ?_, ha⟩
  intro c hc
  cases before with
  | nil =>
    obtain rfl : mark = c := by simpa using hc
    exact hm
  | cons first others =>
    apply hb
    simpa using hc

lemma StandsAlone.ahead (h : StandsAlone word before) (hm : isIdentifierChar mark = false) (rest : Text) :
    StandsAlone word (before ++ mark :: rest) := by
  obtain ⟨front, after, rfl, hb, ha⟩ := h
  refine ⟨front, after ++ mark :: rest, by simp, hb, ?_⟩
  intro c hc
  cases after with
  | nil =>
    obtain rfl : mark = c := by simpa using hc
    exact hm
  | cons first others => exact ha c hc

lemma of_mem_words (h : word ∈ words text) :
    word ≠ [] ∧ (∀ c ∈ word, isIdentifierChar c = true) ∧ StandsAlone word text := by
  -- A character that is part of no word cuts the text in two shorter ones.
  induction hl : text.length using Nat.strong_induction_on generalizing text with
  | _ n ih =>
    by_cases hmark : ∃ mark ∈ text, isIdentifierChar mark = false
    · obtain ⟨mark, hmem, hm⟩ := hmark
      obtain ⟨x, y, rfl⟩ := List.append_of_mem hmem
      rw [List.length_append, List.length_cons] at hl
      rw [words_append x y hm, List.mem_append] at h
      rcases h with hx | hy
      · obtain ⟨hn, hi, halone⟩ := ih x.length (by omega) hx rfl
        exact ⟨hn, hi, halone.ahead hm y⟩
      · obtain ⟨hn, hi, halone⟩ := ih y.length (by omega) hy rfl
        exact ⟨hn, hi, halone.behind hm x⟩
    · have hi : ∀ c ∈ text, isIdentifierChar c = true := by simpa using hmark
      by_cases hn : text = []
      · simp [hn, words] at h
      · rw [words_of_run hn hi, List.mem_singleton] at h
        subst h
        exact ⟨hn, hi, [], [], by simp, by simp, by simp⟩

lemma mem_words_iff :
    word ∈ words text ↔ word ≠ [] ∧ (∀ c ∈ word, isIdentifierChar c = true) ∧ StandsAlone word text := by
  refine ⟨of_mem_words, ?_⟩
  rintro ⟨hn, hi, halone⟩
  exact halone.mem_words hn hi

lemma not_standsAlone_iff : ¬ StandsAlone word text ↔ ∀ before after, text = before ++ word ++ after →
    (∃ c ∈ before.getLast?, isIdentifierChar c = true) ∨ ∃ c ∈ after.head?, isIdentifierChar c = true := by
  constructor
  · intro h before after ht
    by_contra hnone
    rw [not_or] at hnone
    exact h ⟨before, after, ht, by simpa using hnone.1, by simpa using hnone.2⟩
  · rintro h ⟨before, after, ht, hb, ha⟩
    rcases h before after ht with ⟨c, hc, hi⟩ | ⟨c, hc, hi⟩
    · simp [hb c hc] at hi
    · simp [ha c hc] at hi

lemma isBoundary_iff {neighbour : Option Char} :
    isBoundary neighbour = true ↔ ∀ c ∈ neighbour, isIdentifierChar c = false := by
  cases neighbour <;> simp [isBoundary]

lemma delimited_of_mentionsWordFrom {neighbour : Option Char} {covered : ℕ}
    (h : mentionsWordFrom name neighbour covered text = true) :
    ∃ before after, text = before ++ name ++ after ∧ isBoundary (before.getLast?.or neighbour) = true ∧
      isBoundary after.head? = true := by
  induction text generalizing neighbour covered with
  | nil => cases h
  | cons c rest ih =>
    have later : ∀ {covered}, mentionsWordFrom name (some c) covered rest = true →
        ∃ before after, c :: rest = before ++ name ++ after ∧
          isBoundary (before.getLast?.or neighbour) = true ∧ isBoundary after.head? = true := by
      intro covered hlater
      obtain ⟨before, after, rfl, hb, ha⟩ := ih hlater
      refine ⟨c :: before, after, rfl, ?_, ha⟩
      cases hlast : before.getLast? <;> simp_all [List.getLast?_cons]
    cases covered with
    | succ n => exact later h
    | zero =>
      simp only [mentionsWordFrom] at h
      split at h
      · rename_i hprefix
        rcases Bool.or_eq_true_iff.mp h with hhere | hlater
        · obtain ⟨after, hafter⟩ := List.isPrefixOf_iff_prefix.mp hprefix
          rw [← hafter, List.drop_left, Bool.and_eq_true] at hhere
          exact ⟨[], after, hafter.symm, hhere.1, hhere.2⟩
        · exact later hlater
      · exact later h

lemma standsAlone_of_references (h : references text name .word = true) : name ≠ [] ∧ StandsAlone name text := by
  simp only [references, Bool.and_eq_true, Bool.not_eq_true', List.isEmpty_eq_false_iff] at h
  obtain ⟨before, after, ht, hb, ha⟩ := delimited_of_mentionsWordFrom h.2
  rw [Option.or_none] at hb
  exact ⟨h.1, before, after, ht, isBoundary_iff.mp hb, isBoundary_iff.mp ha⟩

lemma references_substring_of_word (h : references text name .word = true) :
    references text name .substring = true := by
  obtain ⟨hn, before, after, rfl, -, -⟩ := standsAlone_of_references h
  exact references_substring_iff.mpr ⟨hn, List.infix_append _ _ _⟩

lemma StandsAlone.references (h : StandsAlone name text) (hn : name ≠ [])
    (hi : ∀ c ∈ name, isIdentifierChar c = true) : references text name .word = true := by
  obtain ⟨before, after, rfl, hb, ha⟩ := h
  refine references_of_delimited hn ?_ ha .word
  intro c hc
  have hmark := hb c hc
  refine ⟨?_, hmark⟩
  intro hmem
  simp [hi c hmem] at hmark

theorem mentioned_word_iff (text : Text) (hn : name ≠ []) (hi : ∀ c ∈ name, isIdentifierChar c = true) :
    (references text name .word = true ↔ name ∈ words text) ∧
      (references text name .word = true ↔ StandsAlone name text) := by
  have hscan : references text name .word = true ↔ StandsAlone name text :=
    ⟨fun h => (standsAlone_of_references h).2, fun h => h.references hn hi⟩
  refine ⟨?_, hscan⟩
  rw [hscan, mem_words_iff]
  constructor
  · intro halone
    exact ⟨hn, hi, halone⟩
  · rintro ⟨-, -, halone⟩
    exact halone

theorem repeating_word_mentioned :
    (∀ c ∈ "ünün".toList, isIdentifierChar c = true) ∧
      references "ününün, $ünün | ünün" "ünün" .word = true ∧ StandsAlone "ünün" "ününün, $ünün | ünün" ∧
      references "ününün, $ünün" "ünün" .word = false ∧ ¬ StandsAlone "ünün" "ününün, $ünün" := by
  have hi : ∀ c ∈ "ünün".toList, isIdentifierChar c = true :=
    List.all_eq_true.mp (by decide +kernel)
  have hn : "ünün".toList ≠ [] := by decide
  obtain ⟨hword, halone⟩ := mentioned_word_iff "ününün, $ünün | ünün" hn hi
  obtain ⟨hword', halone'⟩ := mentioned_word_iff "ününün, $ünün" hn hi
  have hmem : "ünün".toList ∈ words "ününün, $ünün | ünün" := by decide +kernel
  have hnot : "ünün".toList ∉ words "ününün, $ünün" := by decide +kernel
  have hfound := hword.mpr hmem
  have hlost := mt hword'.mp hnot
  exact ⟨hi, hfound, halone.mp hfound, by simpa using hlost, mt halone'.mpr hlost⟩

end DeclSplit.Text
