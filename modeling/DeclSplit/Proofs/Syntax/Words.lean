import DeclSplit.Proofs.Text.Mentions
import DeclSplit.Syntax.Cursor
import Mathlib.Tactic.Lemma

/-! Words of a source: what they are made of, and what stands on either side of them. -/

namespace DeclSplit

open Text

variable {c : Char} {text r : List Char}

def isSeparator (c : Char) : Bool := isLineEnd c || isBlank c || c == '/'

lemma separator_apart (h : isSeparator c = true) : isIdentifierChar c = false ∧ isNamePart c = false := by
  simp only [isSeparator, isLineEnd, isBlank, Bool.or_eq_true, Bool.and_eq_true, beq_iff_eq,
    decide_eq_true_eq, or_assoc] at h
  rcases h with rfl | rfl | rfl | rfl | rfl | rfl | rfl | rfl | rfl | rfl | rfl | rfl | hspace | rfl | rfl | rfl |
    rfl | rfl
  case inr.inr.inr.inr.inr.inr.inr.inr.inr.inr.inr.inr.inl =>
    have hall : ∀ n ∈ List.range' 8192 12,
        isIdentifierChar (Char.ofNat n) = false ∧ isNamePart (Char.ofNat n) = false := by decide +kernel
    have hlow : 8192 ≤ c.toNat := hspace.1
    have hhigh : c.toNat ≤ 8203 := hspace.2
    rw [← Char.ofNat_toNat c]
    exact hall _ (List.mem_range'_1.mpr ⟨hlow, by omega⟩)
  all_goals decide +kernel

namespace Gap

def EndsApart (passed text : List Char) (g : Gap) : Prop :=
  g.unclosed = false → (passed ++ text).drop g.length ≠ [] →
    ∀ x ∈ ((passed ++ text).take g.length).getLast?, isSeparator x = true

variable {passed : List Char} {n : ℕ} {newline : Bool}

lemma EndsApart.shift {g : Gap} (piece : List Char) (h : EndsApart (passed ++ piece) text g) :
    EndsApart passed (piece ++ text) g := by
  simpa only [EndsApart, List.append_assoc] using h

lemma endsApart_stop (hn : passed.length = n) (hl : ∀ x ∈ passed.getLast?, isSeparator x = true) :
    EndsApart passed text ⟨n, newline, false⟩ := by
  rintro - -
  rwa [← hn, List.take_left]

lemma endsApart_read {d : Dialect} {place : Place} (hn : passed.length = n)
    (hl : place = .outside → ∀ x ∈ passed.getLast?, isSeparator x = true) :
    EndsApart passed text (read d place n newline text) := by
  fun_induction read d place n newline text generalizing passed with
  | case1 n newline r ih =>
    exact .shift ['/', '/'] (ih (by simp [hn]) nofun)
  | case2 n newline r ih =>
    exact .shift ['/', '*'] (ih (by simp [hn]) nofun)
  | case4 n newline r _ ih =>
    exact .shift ['<', '!', '-', '-'] (ih (by simp [hn]) nofun)
  | case6 n newline r _ ih =>
    exact .shift ['-', '-', '>'] (ih (by simp [hn]) nofun)
  | case7 n newline c r _ _ _ _ hend ih | case8 n newline c r _ _ _ _ _ hend ih | case11 n newline c r hend ih =>
    exact .shift [c] (ih (by simp [hn]) (by simp [isSeparator, hend]))
  | case12 n newline c r _ ih | case15 opened n newline c r _ ih =>
    exact .shift [c] (ih (by simp [hn]) nofun)
  | case14 opened n newline r ih =>
    exact .shift ['*', '/'] (ih (by simp [hn]) (by simp [isSeparator]))
  | case3 | case5 | case9 | case10 => exact endsApart_stop hn (hl rfl)
  | case13 n newline =>
    intro _ hmore
    simp [← hn] at hmore
  | case16 => nofun

end Gap

namespace Spelling

lemma length_read_pos {fuel : ℕ} (opens : opensName c = true) : 0 < (read (fuel + 1) true (c :: r)).length := by
  by_cases hc : c = '\\'
  · subst hc
    simp only [read, append]
    omega
  · have hstart : isNameStart c = true := by simpa [opensName, hc] using opens
    rw [read]
    · simp only [hstart, if_true, append]
      omega
    · exact hc

lemma mem_take_read {run : List Char} {fuel : ℕ} (hfuel : run.length < fuel)
    (hrun : ∀ c ∈ run, isNamePart c = true) (atStart : Bool) (hstart : atStart = true → ∀ c ∈ run.head?, isNameStart c = true) :
    '\\' ∈ (run ++ '\\' :: r).take (read fuel atStart (run ++ '\\' :: r)).length := by
  induction run generalizing fuel atStart with
  | nil =>
    obtain ⟨n, rfl⟩ := Nat.exists_eq_succ_of_ne_zero (Nat.ne_of_gt hfuel)
    rw [List.nil_append, read]
    simp only [append, Nat.add_comm 1, List.take_succ_cons, List.mem_cons, true_or]
  | cons c run ih =>
    obtain ⟨n, rfl⟩ := Nat.exists_eq_succ_of_ne_zero (Nat.ne_of_gt (Nat.zero_lt_of_lt hfuel))
    have hpart := hrun c List.mem_cons_self
    have hback : c ≠ '\\' := by
      rintro rfl
      cases hpart
    have hallowed : (if atStart then isNameStart c else isNamePart c) = true := by
      cases atStart with
      | true => exact hstart rfl c rfl
      | false => exact hpart
    have hrest := ih (Nat.lt_of_succ_lt_succ hfuel) (fun d hd => hrun d (List.mem_cons_of_mem _ hd)) false
      fun hfalse => absurd hfalse Bool.false_ne_true
    rw [List.cons_append, read.eq_3 _ _ _ _ hback, if_pos hallowed]
    simp only [append, Nat.add_comm 1, List.take_succ_cons]
    exact List.mem_cons_of_mem _ hrest

end Spelling

namespace Lexeme

lemma length_ofWord_pos (opens : opensName c = true) : 0 < (ofWord (c :: r)).length := by
  simp only [ofWord]
  split
  · exact Spelling.length_read_pos opens
  · rename_i plainly
    by_cases hc : isNamePart c = true
    · simp [plain, hc]
    · have hback : c = '\\' := by
        by_contra hne
        have hstart : isNameStart c = true := by simpa [opensName, hne] using opens
        exact hc (isNamePart_of_isNameStart hstart)
      subst hback
      exact absurd rfl (plainly r)

lemma take_takeWhile {p : Char → Bool} (text : List Char) : text.take (text.takeWhile p).length = text.takeWhile p :=
  (List.prefix_iff_eq_take.mp (List.takeWhile_prefix _)).symm

lemma isSome_decoded_ofWord (opens : opensName c = true) :
    (ofWord (c :: r)).decoded.isSome = true ↔ '\\' ∈ (c :: r).take (ofWord (c :: r)).length := by
  have hrun : ∀ d ∈ (c :: r).takeWhile isNamePart, isNamePart d = true := List.all_eq_true.mp List.all_takeWhile
  simp only [ofWord]
  split
  · rename_i rest hescape
    refine iff_of_true rfl ?_
    have htext := List.take_append_drop ((c :: r).takeWhile isNamePart).length (c :: r)
    rw [take_takeWhile, hescape] at htext
    have hopens : ∀ d ∈ ((c :: r).takeWhile isNamePart).head?, isNameStart d = true := by
      intro d hd
      have hpart := hrun d (List.mem_of_mem_head? hd)
      obtain rfl : d = c := by
        by_cases hc : isNamePart c = true
        · simpa [List.takeWhile_cons_of_pos hc, eq_comm] using hd
        · simp [List.takeWhile_cons_of_neg hc] at hd
      have hback : d ≠ '\\' := by
        rintro rfl
        cases hpart
      simpa [opensName, hback] using opens
    have hfuel : ((c :: r).takeWhile isNamePart).length < (c :: r).length + 1 :=
      Nat.lt_succ_of_le (List.takeWhile_prefix _).length_le
    have hread := Spelling.mem_take_read (r := rest) hfuel hrun true fun _ => hopens
    rwa [htext] at hread
  · refine iff_of_false Bool.false_ne_true ?_
    simp only [plain]
    rw [take_takeWhile]
    intro hmem
    cases hrun _ hmem

lemma isNamePart_of_mem_ofWord (h : c ∈ (ofWord text).decoded.getD (text.take (ofWord text).length)) :
    isNamePart c = true := by
  revert h
  simp only [ofWord]
  split
  · exact Spelling.isNamePart_of_mem_read
  · intro h
    simp only [plain, Option.getD_none, take_takeWhile] at h
    exact List.all_eq_true.mp List.all_takeWhile c h

lemma longestAt_foreign (foreign : ¬ c.val < 128) : Punctuator.longestAt Punctuator.plainForms (c :: r) = none := by
  have hascii : ∀ p ∈ Punctuator.plainForms, p.spelling.toList.head?.any (·.val < 128) = true := by decide +kernel
  have hnone : Punctuator.plainForms.find? (fun p => p.spelling.toList.isPrefixOf (c :: r)) = none := by
    rw [List.find?_eq_none]
    intro p hp hprefix
    have hfirst := hascii p hp
    cases hs : p.spelling.toList with
    | nil => simp [hs] at hfirst
    | cons first others =>
      rw [hs] at hfirst hprefix
      obtain ⟨rfl, -⟩ : first = c ∧ _ := by simpa using hprefix
      exact foreign (by simpa using hfirst)
  simp [Punctuator.longestAt, hnone]

lemma front_foreign (foreign : ¬ c.val < 128) (hpart : isNamePart c = false) :
    (front (c :: r)).kind = .unreadable := by
  have hne : ∀ d : Char, d.val < 128 → c ≠ d := by
    rintro d hd rfl
    exact foreign hd
  have hopens : opensName c = false := by
    simp only [opensName, Bool.or_eq_false_iff]
    refine ⟨by simpa using hne '\\' (by decide), ?_⟩
    by_contra hstart
    simp [isNamePart_of_isNameStart (by simpa using hstart)] at hpart
  have hdigit : c.isDigit = false := by
    by_contra hd
    simp only [Char.isDigit, Bool.not_eq_false, Bool.and_eq_true, decide_eq_true_eq, ge_iff_le] at hd
    exact foreign (UInt32.lt_of_le_of_lt hd.2 (by decide))
  have hquote : (c == '"' || c == '\'') = false := by simp [hne '"' (by decide), hne '\'' (by decide)]
  have hmark : ofPunctuator (c :: r) = none := by
    rw [ofPunctuator, longestAt_foreign foreign, Option.map_none]
    · exact fun _ _ h => hne '?' (by decide) (List.cons.inj h).1
    · exact fun _ h => hne '>' (by decide) (List.cons.inj h).1
  rw [front]
  · simp [hopens, hdigit, hquote, hmark, broken]
  · exact hne '`' (by decide)
  · exact hne '#' (by decide)
  · exact fun _ _ h _ => hne '.' (by decide) h

end Lexeme

lemma foreign_of_isIdentifierChar (hc : isIdentifierChar c = true) (hpart : isNamePart c = false) :
    ¬ c.val < 128 := by
  intro hascii
  simp only [isNamePart, Unicode.isIdContinue, if_pos hascii, Bool.or_eq_false_iff, beq_eq_false_iff_ne] at hpart
  simp only [isIdentifierChar, Unicode.isAlphanumeric, if_pos hascii, Bool.or_eq_true, beq_iff_eq] at hc
  simp_all

namespace Cursor

lemma next_foreign {s : Cursor} (hr : s.rest = c :: r) (hc : isIdentifierChar c = true)
    (hpart : isNamePart c = false) : (s.next Lexeme.read).token.kind = .unreadable := by
  have happart : isSeparator c = false := by
    by_contra h
    simp [(separator_apart (by simpa using h)).1] at hc
  simp only [isSeparator, Bool.or_eq_false_iff, beq_eq_false_iff_ne] at happart
  have hne : ∀ d, isIdentifierChar d = false → c ≠ d := by
    rintro d hd rfl
    simp [hd] at hc
  have hgap : Gap.read s.dialect .outside 0 false s.rest = ⟨0, false, false⟩ := by
    rw [hr, Gap.read]
    · simp [happart]
    · exact fun _ h _ => happart.2 h
    · exact fun _ h _ => happart.2 h
    · exact fun _ h _ => hne '<' (by decide) h
    · exact fun _ h _ => hne '-' (by decide) h
  have hnext : s.next Lexeme.read = s.step 0 false Lexeme.read := by simp [next, hgap]
  have hfront : (Lexeme.front (c :: r)).kind = .unreadable :=
    Lexeme.front_foreign (foreign_of_isIdentifierChar hc hpart) hpart
  rw [hnext]
  change (Lexeme.front (s.rest.drop 0)).kind = .unreadable
  rwa [List.drop_zero, hr]

lemma next_word {s : Cursor} (h : (s.next Lexeme.read).token.kind.isWord = true) :
    ∃ gap first r, s.rest = gap ++ first :: r ∧ (∀ x ∈ gap.getLast?, isSeparator x = true) ∧
      opensName first = true ∧ (s.next Lexeme.read).token.start = s.offset + byteLength gap ∧
      (s.next Lexeme.read).token.lexeme = (first :: r).take (Lexeme.ofWord (first :: r)).length ∧
      (s.next Lexeme.read).token.decoded = (Lexeme.ofWord (first :: r)).decoded ∧
      (s.next Lexeme.read).rest = (first :: r).drop (Lexeme.ofWord (first :: r)).length := by
  set gap := Gap.read s.dialect .outside 0 false s.rest with hgap
  have hclosed : gap.unclosed = false := by
    by_contra hopen
    simp only [next, ← hgap, Bool.not_eq_false _ ▸ hopen] at h
    simp [step, tokenOf, Lexeme.readUnclosed, Lexeme.except, Lexeme.broken, TokenKind.isWord] at h
  have hnext : s.next Lexeme.read = s.step gap.length gap.newline Lexeme.read := by
    simp [next, ← hgap, hclosed]
  rw [hnext] at h ⊢
  obtain ⟨first, r, htext, hopens, hword⟩ := Lexeme.front_of_isWord h
  rw [htext] at hword
  have hlast : Gap.EndsApart [] s.rest gap := Gap.endsApart_read rfl nofun
  refine ⟨s.rest.take gap.length, first, r, ?_, ?_, hopens, rfl, ?_, ?_, ?_⟩
  · rw [← htext, List.take_append_drop]
  · exact hlast hclosed (by simp [htext])
  · simp [step, tokenOf, Lexeme.read, hword, htext]
  · simp [step, tokenOf, Lexeme.read, hword, htext]
  · simp [step, Lexeme.read, hword, htext]

lemma isIdentifierChar_after_word {s : Cursor} (h : (s.next Lexeme.read).token.kind.isWord = true)
    (hread : ((s.next Lexeme.read).next Lexeme.read).token.kind ≠ .unreadable) :
    ∀ x ∈ (s.next Lexeme.read).rest.head?, isIdentifierChar x = false := by
  obtain ⟨gap, first, r, -, -, hopens, -, -, -, hleft⟩ := next_word h
  have hends : endsName (s.next Lexeme.read).rest = true := by
    rw [hleft]
    exact Lexeme.endsName_drop_ofWord (by simpa using hopens)
  cases hr : (s.next Lexeme.read).rest with
  | nil => nofun
  | cons x r =>
    intro y hy
    obtain rfl : x = y := Option.some.inj hy
    by_contra hid
    -- A character that goes on with the word, but is no part of a name, cannot be read.
    rw [hr] at hends
    simp only [endsName, Bool.and_eq_true, Bool.not_eq_true'] at hends
    exact hread (next_foreign hr (by simpa using hid) hends.2)

end Cursor

end DeclSplit
