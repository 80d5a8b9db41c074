import DeclSplit.Path.Basic
import DeclSplit.Proofs.Text.OsText
import DeclSplit.Proofs.Text.Pieces

/-! Components of paths: how they are cut out of a text, and how they are joined. -/

namespace DeclSplit

namespace Path

def counts (piece : OsText) : Bool := !piece.isEmpty && piece ≠ "."

lemma counts_iff {piece : OsText} : counts piece = true ↔ piece ≠ [] ∧ piece ≠ "." := by
  simp only [counts, Bool.and_eq_true, Bool.not_eq_true', List.isEmpty_eq_false_iff, decide_eq_true_eq]

lemma components_eq (path : Path) : path.components = (Text.pieces .slash path.os).filter counts := rfl

def names (path : Path) : List OsText := (Text.pieces .slash path.os).filter (!·.isEmpty)

lemma filter_names (path : Path) : path.names.filter counts = path.components := by
  rw [components_eq, names, List.filter_filter]
  apply List.filter_congr
  intro piece _
  cases piece <;> simp [counts]

def Clean (names : List OsText) : Prop := ∀ name ∈ names, counts name = true ∧ OsChar.slash ∉ name

lemma clean_components (path : Path) : Clean path.components := by
  intro name h
  obtain ⟨hp, hc⟩ := List.mem_filter.mp h
  exact ⟨hc, Text.notMem_of_mem_pieces hp⟩

lemma counts_empty : counts [] = false := rfl

lemma filter_pieces_join {dir : Path} {name : OsText} {p : OsText → Bool} (hp : p name = true) (he : p [] = false)
    (hs : OsChar.slash ∉ name) :
    (Text.pieces .slash (dir.join name).os).filter p = (Text.pieces .slash dir.os).filter p ++ [name] := by
  have hh : name.head? ≠ some .slash := fun h => hs (List.mem_of_mem_head? h)
  rw [join, if_neg hh]
  split
  · rename_i hd
    simp only [Bool.or_eq_true, List.isEmpty_iff, decide_eq_true_eq] at hd
    rcases hd with hd | hd
    · simp [hd, Text.pieces, Text.pieces_of_notMem hs, hp, he]
    · obtain ⟨front, hf⟩ := List.getLast?_eq_some_iff.mp hd
      simp [hf, Text.pieces_append, Text.pieces_of_notMem hs, hp, Text.pieces, he]
  · simp [Text.pieces_append, Text.pieces_of_notMem hs, hp]

lemma components_join {dir : Path} {name : OsText} (hc : counts name = true) (hs : OsChar.slash ∉ name) :
    (dir.join name).components = dir.components ++ [name] :=
  filter_pieces_join hc counts_empty hs

lemma names_join {dir : Path} {name : OsText} (hc : counts name = true) (hs : OsChar.slash ∉ name) :
    (dir.join name).names = dir.names ++ [name] := by
  refine filter_pieces_join ?_ rfl hs
  rw [counts, Bool.and_eq_true] at hc
  exact hc.1

section Parents

variable {names : List OsText} {absolute : Bool}

lemma pieces_ofComponents (hc : Clean names) (hn : names ≠ []) :
    Text.pieces .slash (ofComponents absolute names).os = if absolute then [] :: names else names := by
  have hj := Text.pieces_joined (fun name h => (hc name h).2) hn
  cases absolute with
  | false => exact hj
  | true =>
    change Text.pieces .slash ([] ++ .slash :: Text.joined .slash names) = _
    rw [Text.pieces_append, hj]
    rfl

lemma components_ofComponents (hc : Clean names) (hn : names ≠ []) :
    (ofComponents absolute names).components = names := by
  have hf : names.filter counts = names := List.filter_eq_self.mpr fun name h => (hc name h).1
  rw [components_eq, pieces_ofComponents hc hn]
  split
  · rw [List.filter_cons_of_neg (by simp [counts_empty]), hf]
  · exact hf

lemma names_ofComponents (hc : Clean names) (hn : names ≠ []) : (ofComponents absolute names).names = names := by
  have hf : names.filter (!·.isEmpty) = names := by
    refine List.filter_eq_self.mpr fun name h => ?_
    have := (hc name h).1
    simp only [counts, Bool.and_eq_true] at this
    exact this.1
  rw [Path.names, pieces_ofComponents hc hn]
  split
  · rw [List.filter_cons_of_neg (by simp), hf]
  · exact hf

lemma isAbsolute_ofComponents (hc : Clean names) (hn : names ≠ []) :
    (ofComponents absolute names).isAbsolute = absolute := by
  cases absolute with
  | true => rfl
  | false =>
    obtain ⟨name, rest, rfl⟩ := List.exists_cons_of_ne_nil hn
    obtain ⟨hk, hs⟩ := hc name List.mem_cons_self
    cases name with
    | nil => cases hk
    | cons c name =>
      have hne : c ≠ .slash := fun h => hs (h ▸ List.mem_cons_self)
      cases rest <;> simpa [isAbsolute, ofComponents, Text.joined] using hne

lemma parents_eq {path : Path} {name : OsText} (h : path.components = names ++ [name]) (hn : names ≠ []) :
    path.parents = ofComponents path.isAbsolute names :: (ofComponents path.isAbsolute names).parents := by
  have hc : Clean names := fun other ho => clean_components path other (h ▸ List.mem_append_left _ ho)
  obtain ⟨n, hl⟩ := Nat.exists_eq_succ_of_ne_zero (mt List.length_eq_zero_iff.mp hn)
  have hlast : (names ++ [name]).take (1 + n) = names := by
    rw [Nat.add_comm, ← Nat.succ_eq_add_one, ← hl, List.take_left]
  have hrest : (List.range' 1 n).map (fun k => ofComponents path.isAbsolute ((names ++ [name]).take k)) =
      (List.range' 1 n).map (fun k => ofComponents path.isAbsolute (names.take k)) := by
    apply List.map_congr_left
    intro k hk
    have hk' : k ≤ names.length := by
      have := List.mem_range'_1.mp hk
      omega
    rw [List.take_append_of_le_length hk']
  rw [parents, parents, components_ofComponents hc hn, isAbsolute_ofComponents hc hn, h, List.length_append,
    hl, List.length_singleton, Nat.add_sub_cancel, List.range'_1_concat, List.map_append, List.reverse_append,
    hrest, List.map_singleton, hlast]
  rfl

lemma ofComponents_sublist {path : Path} {rest : List OsText} (h : path.components = names ++ rest) :
    (ofComponents path.isAbsolute names).os.Sublist path.os := by
  have hc : ∀ text : OsText, ((Text.pieces .slash text).filter counts = names ++ rest) →
      (Text.joined .slash names).Sublist text := by
    intro text ht
    have hs : names.Sublist (Text.pieces .slash text) := by
      refine (List.sublist_append_left names rest).trans ?_
      rw [← ht]
      exact List.filter_sublist
    simpa only [Text.joined_pieces] using Text.joined_sublist .slash hs
  rw [components_eq] at h
  cases ha : path.isAbsolute with
  | false => exact hc _ h
  | true =>
    obtain ⟨text, ht⟩ : ∃ text : OsText, path.os = .slash :: text := by
      cases ht : path.os with
      | nil => simp [isAbsolute, ht] at ha
      | cons c text =>
        obtain rfl : c = .slash := by simpa [isAbsolute, ht] using ha
        exact ⟨text, rfl⟩
    have hp : Text.pieces .slash path.os = [] :: Text.pieces .slash text := by
      rw [ht]
      exact Text.pieces_append .slash [] text
    rw [hp, List.filter_cons_of_neg (by simp [counts_empty])] at h
    rw [ht]
    exact (hc text h).cons_cons .slash

end Parents

end Path

end DeclSplit
