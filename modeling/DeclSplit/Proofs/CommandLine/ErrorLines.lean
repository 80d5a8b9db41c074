import DeclSplit.CommandLine.Report
import DeclSplit.Proofs.Text.Pieces

/-! The line about files that were left behind: no other line of a report reads like it. -/

namespace DeclSplit

namespace CommandLine

def leftInPlace : Text := "Files written before the failure were left in place."

lemma head_leftInPlace : leftInPlace.head? = some 'F' := by decide +kernel

lemma ne_leftInPlace {line : Text} (h : line.head? ≠ some 'F') : line ≠ leftInPlace := by
  rintro rfl
  exact h head_leftInPlace

/-- A line of its own within a text. -/
def HasLine (text line : Text) : Prop :=
  ∃ before after, text = before ++ line ++ '\n' :: after ∧ (before = [] ∨ before.getLast? = some '\n')

lemma HasLine.mem_pieces {text line : Text} (h : HasLine text line) (hl : '\n' ∉ line) :
    line ∈ Text.pieces '\n' text := by
  obtain ⟨before, after, rfl, hb⟩ := h
  rw [Text.pieces_append]
  apply List.mem_append_left
  rcases hb with rfl | hb
  · rw [List.nil_append, Text.pieces_of_notMem hl]
    exact List.mem_singleton_self line
  · obtain ⟨front, rfl⟩ := List.getLast?_eq_some_iff.mp hb
    rw [List.append_assoc, List.singleton_append, Text.pieces_append, Text.pieces_of_notMem hl]
    exact List.mem_append_right _ (List.mem_singleton_self line)

namespace Report

variable {lines : List Text} {line : Text}

lemma unlines_append (first rest : List Text) : unlines (first ++ rest) = unlines first ++ unlines rest := by
  simp [unlines]

lemma unlines_ends (lines : List Text) : unlines lines = [] ∨ (unlines lines).getLast? = some '\n' := by
  rcases List.eq_nil_or_concat lines with rfl | ⟨first, last, rfl⟩
  · exact .inl rfl
  · refine .inr ?_
    rw [List.concat_eq_append, unlines_append]
    simp [unlines]

lemma hasLine_unlines (h : line ∈ lines) : HasLine (unlines lines) line := by
  obtain ⟨first, rest, rfl⟩ := List.append_of_mem h
  refine ⟨unlines first, unlines rest, ?_, unlines_ends first⟩
  rw [unlines_append]
  simp [unlines]

lemma pieces_unlines (h : ∀ line ∈ lines, '\n' ∉ line) : Text.pieces '\n' (unlines lines) = lines ++ [[]] := by
  induction lines with
  | nil => rfl
  | cons first lines ih =>
    have hu : unlines (first :: lines) = first ++ '\n' :: unlines lines := by simp [unlines]
    rw [hu, Text.pieces_append, Text.pieces_of_notMem (h first List.mem_cons_self),
      ih fun line hl => h line (List.mem_cons_of_mem _ hl)]
    rfl

lemma mem_of_hasLine (h : HasLine (unlines lines) line) (hn : line ≠ []) (hl : '\n' ∉ line) :
    line ∈ lines ∨ ∃ printed ∈ lines, '\n' ∈ printed := by
  by_cases hlines : ∀ line ∈ lines, '\n' ∉ line
  · have hm := h.mem_pieces hl
    rw [pieces_unlines hlines, List.mem_append, List.mem_singleton] at hm
    exact .inl (hm.resolve_right hn)
  · push Not at hlines
    exact .inr hlines

end Report

lemma failureLine_ne (message : Text) (cause : Option FileError) : failureLine message cause ≠ leftInPlace := by
  obtain ⟨rest, hr⟩ : ∃ rest : Text, failureLine message cause = "Error: ".toList ++ rest := ⟨_, rfl⟩
  apply ne_leftInPlace
  simp [hr]

lemma mem_splitFailure_iff {e : SplitError} : leftInPlace ∈ splitFailure e ↔ e.isOutputError = true := by
  have hs : splitFailure e = failureLine e.message e.cause? ::
    if e.isOutputError then [leftInPlace] else [] := rfl
  rw [hs, List.mem_cons]
  constructor
  · rintro (h | h)
    · exact absurd h.symm (failureLine_ne _ _)
    · by_contra hn
      simp [hn] at h
  · intro h
    simp [h]

lemma logLine_ne (message : LogMessage) (time : Text) : message.line time ≠ leftInPlace := by
  have hc : ':' ∈ message.line time :=
    Text.mem_join (show ':' ∈ LogMessage.source.toList ++ ":".toList by simp) (by simp)
  intro h
  rw [h] at hc
  revert hc
  decide +kernel

lemma notMem_logLines (filter : LogFilter) (time : Text) (events : List SplitEvent) :
    leftInPlace ∉ filter.lines time events := by
  intro h
  obtain ⟨message, _, hm⟩ := List.mem_map.mp h
  exact logLine_ne message time hm

def Indented (line : Text) : Prop := line = [] ∨ line.head? = some ' '

lemma Indented.ne {line : Text} (h : Indented line) : line ≠ leftInPlace := by
  apply ne_leftInPlace
  rcases h with rfl | h
  · simp
  · simp [h]

lemma indented_append {front back : Text} (h : front.head? = some ' ') : Indented (front ++ back) := by
  refine .inr ?_
  rw [List.head?_append, h]
  rfl

namespace UsageError

lemma indented_choiceNotes {p : Parameter} {line : Text} (h : line ∈ choiceNotes p) : Indented line := by
  rw [choiceNotes] at h
  split at h
  · cases h
  · obtain rfl := List.mem_singleton.mp h
    exact .inr (by simp)

lemma indented_commandTips {similar : List Text} {line : Text} (h : line ∈ commandTips similar) :
    Indented line := by
  match similar, h with
  | [only], h =>
    rcases List.mem_pair.mp h with rfl | rfl
    · exact .inl rfl
    · exact .inr (by simp)
  | first :: second :: rest, h =>
    rcases List.mem_pair.mp h with rfl | rfl
    · exact .inl rfl
    · exact .inr (by simp)

lemma indented_choiceTips {p : Parameter} {value line : Text} (h : line ∈ choiceTips p value) :
    Indented line := by
  rw [choiceTips] at h
  split at h
  · rcases List.mem_pair.mp h with rfl | rfl
    · exact .inl rfl
    · exact .inr (by simp)
  · cases h

lemma indented_tip (tip : Tip) : Indented tip.line := by
  cases tip with
  | similarOption option => exact indented_append (by simp)
  | optionOf command option => exact indented_append (by simp)
  | asValue argument => exact indented_append (by simp)
  | asCommand word => exact indented_append (by simp)

lemma indented_of_mem_tail {e : UsageError} {line : Text} (h : line ∈ e.complaint.tail) : Indented line := by
  cases e with
  | nothingGiven => cases h
  | missingCommand =>
    obtain rfl := List.mem_singleton.mp h
    exact .inr (by simp)
  | unknownCommand _ word similar => exact indented_commandTips h
  | missingPositional scope _ =>
    obtain ⟨p, _, rfl⟩ := List.mem_map.mp h
    exact .inr (by simp)
  | unexpected _ argument tip _ =>
    cases tip with
    | none => cases h
    | some tip =>
      rcases List.mem_pair.mp h with rfl | rfl
      · exact .inl rfl
      · exact indented_tip tip
  | unexpectedValue _ option value _ => cases h
  | repeated _ option => cases h
  | missingValue p => exact indented_choiceNotes h
  | badChoice p value =>
    rcases List.mem_append.mp h with h | h
    · exact indented_choiceNotes h
    · exact indented_choiceTips h

lemma usageLine_ne (scope : Scope) (used : List Parameter) : scope.usageLine used ≠ leftInPlace := by
  obtain ⟨rest, hr⟩ : ∃ rest : Text, scope.usageLine used = "Usage: ".toList ++ rest := ⟨_, rfl⟩
  apply ne_leftInPlace
  simp [hr]

lemma usage_ne {e : UsageError} {usage : Text} (h : e.usage? = some usage) : usage ≠ leftInPlace := by
  obtain ⟨scope, used, rfl⟩ : ∃ scope used, usage = Scope.usageLine scope used := by
    cases e <;> cases h <;> exact ⟨_, _, rfl⟩
  exact usageLine_ne scope used

lemma notMem_helpNote (e : UsageError) : leftInPlace ∉ e.helpNote := by
  unfold helpNote
  split
  · simp
  · decide +kernel

lemma notMem_helpLines : leftInPlace ∉ Scope.program.helpLines := by decide +kernel

lemma lines_eq {e : UsageError} {first : Text} {more : List Text} (h : e.complaint = first :: more) :
    e.lines = ("error: ".toList ++ first) :: more ++
      ((e.usage?.map fun usage => [[], usage]).getD []) ++ e.helpNote := by
  cases e with
  | nothingGiven => cases h
  | _ => simp only [lines, h]

lemma notMem_lines (e : UsageError) : leftInPlace ∉ e.lines := by
  cases hc : e.complaint with
  | nil =>
    obtain rfl : e = .nothingGiven := by cases e <;> first | rfl | cases hc
    exact notMem_helpLines
  | cons first more =>
    rw [lines_eq hc]
    simp only [List.mem_append, List.mem_cons, not_or]
    refine ⟨⟨⟨ne_leftInPlace (by simp) |>.symm, ?_⟩, ?_⟩, notMem_helpNote e⟩
    · intro hm
      have ht : leftInPlace ∈ e.complaint.tail := by rwa [hc]
      exact (indented_of_mem_tail ht).ne rfl
    · cases hu : e.usage? with
      | none => simp
      | some usage =>
        intro hm
        rcases List.mem_pair.mp hm with h | h
        · exact absurd h.symm (ne_leftInPlace (by simp))
        · exact usage_ne hu h.symm

end UsageError

end CommandLine

end DeclSplit
