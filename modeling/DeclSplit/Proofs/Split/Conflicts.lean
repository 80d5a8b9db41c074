import DeclSplit.Proofs.Files.Actions
import DeclSplit.Proofs.Files.Changes
import DeclSplit.Proofs.Files.Directories
import DeclSplit.Proofs.Text.OsText
import DeclSplit.Proofs.Text.Utf8
import DeclSplit.Split.Conflicts
import DeclSplit.Plan
import Mathlib.Data.List.Basic
import Mathlib.Tactic.Tauto

/-! The files in the way: what a directory lists of those that a split could replace. -/

namespace DeclSplit

open FileTree (Action above)
open DeclSplit.Path (counts)

variable {tree : FileTree} {dir : Path} {upper : Location} {contents : Contents} {name : OsText} {extension : Text}
  {names : List Text} {found : List OsText}

namespace Text

variable {text other : Text} {texts : List Text}

lemma mem_insertSorted : text ∈ insertSorted other texts ↔ text = other ∨ text ∈ texts := by
  induction texts with
  | nil => simp [insertSorted]
  | cons first texts ih =>
    rw [insertSorted]
    split
    · rw [List.mem_cons, ih, List.mem_cons]
      tauto
    · exact List.mem_cons

lemma insertSorted_pairwise (hs : texts.Pairwise fun first later => ¬ later < first) :
    (insertSorted text texts).Pairwise fun first later => ¬ later < first := by
  induction texts with
  | nil => exact List.pairwise_singleton _ _
  | cons first texts ih =>
    obtain ⟨hfirst, hrest⟩ := List.pairwise_cons.mp hs
    rw [insertSorted]
    split
    · rename_i hlt
      refine List.pairwise_cons.mpr ⟨?_, ih hrest⟩
      intro other ho
      rcases mem_insertSorted.mp ho with rfl | ho
      · exact List.lt_asymm hlt
      · exact hfirst other ho
    · rename_i hle
      refine List.pairwise_cons.mpr ⟨?_, hs⟩
      intro other ho
      rcases List.mem_cons.mp ho with rfl | ho
      · exact hle
      · exact List.not_lt.mpr (List.le_trans (List.not_lt.mp hle) (List.not_lt.mp (hfirst other ho)))

lemma sort_pairwise (texts : List Text) : (sort texts).Pairwise fun first later => ¬ later < first := by
  induction texts with
  | nil => exact .nil
  | cons first texts ih => exact insertSorted_pairwise ih

lemma insertSorted_perm (text : Text) (texts : List Text) : (insertSorted text texts).Perm (text :: texts) := by
  induction texts with
  | nil => exact .refl _
  | cons first texts ih =>
    rw [insertSorted]
    split
    · exact (ih.cons first).trans (.swap _ _ _)
    · exact .refl _

lemma sort_perm (texts : List Text) : (sort texts).Perm texts := by
  induction texts with
  | nil => exact .refl _
  | cons first texts ih => exact (insertSorted_perm first _).trans (ih.cons first)

end Text

namespace FileTree

def fileIn (upper : Location) : Location × Entry → Option OsText := fun (location, entry) =>
  match entry, location.getLast? with
  | .file _, some name => if location.dropLast = upper then some name else none
  | _, _ => none

lemma fileIn_eq_some {entry : Location × Entry} :
    fileIn upper entry = some name ↔ ∃ contents, entry = (upper ++ [name], .file contents) := by
  obtain ⟨location, entry⟩ := entry
  simp only [fileIn]
  split
  · rename_i contents last hl
    obtain ⟨init, rfl⟩ := List.getLast?_eq_some_iff.mp hl
    rw [List.dropLast_concat]
    split
    · rename_i hi
      subst hi
      simp [eq_comm]
    · rename_i hi
      simp [hi]
  · rename_i hno
    constructor
    · intro h
      cases h
    · rintro ⟨contents, he⟩
      cases he
      exact absurd (List.getLast?_concat ..) (hno contents name rfl)

lemma fileNames_ok (h : tree.fileNames dir = .ok found) : ∃ upper, tree.resolve dir = .ok upper ∧
    tree.find? upper = some .directory ∧ found = tree.entries.filterMap (fileIn upper) := by
  rw [fileNames] at h
  cases hr : tree.resolve dir with
  | error e => simp [hr, bind, Except.bind] at h
  | ok upper =>
    simp only [hr, bind, Except.bind] at h
    split at h
    · cases h
    · rename_i hd
      cases h
      exact ⟨upper, rfl, hd, rfl⟩
    · cases h

lemma mem_fileNames (hd : tree.fileNames dir = .ok found) (hr : tree.resolve dir = .ok upper)
    (hf : tree.find? (upper ++ [name]) = some (.file contents)) : name ∈ found := by
  obtain ⟨other, ho, -, rfl⟩ := fileNames_ok hd
  cases hr.symm.trans ho
  exact List.mem_filterMap.mpr ⟨_, mem_entries hf, fileIn_eq_some.mpr ⟨contents, rfl⟩⟩

lemma nodup_fileIn (hd : tree.Distinct) (upper : Location) : (tree.entries.filterMap (fileIn upper)).Nodup := by
  refine List.pairwise_filterMap.mpr ((List.pairwise_map.mp hd).imp ?_)
  rintro entry entry' hne name hn name' hn' rfl
  obtain ⟨contents, rfl⟩ := fileIn_eq_some.mp hn
  obtain ⟨contents', rfl⟩ := fileIn_eq_some.mp hn'
  exact hne rfl

lemma mem_fileIn (hd : tree.Distinct) : name ∈ tree.entries.filterMap (fileIn upper) ↔
    ∃ contents, tree.find? (upper ++ [name]) = some (.file contents) := by
  rw [List.mem_filterMap]
  constructor
  · rintro ⟨entry, hm, hn⟩
    obtain ⟨contents, rfl⟩ := fileIn_eq_some.mp hn
    exact ⟨contents, hd.find? hm⟩
  · rintro ⟨contents, hf⟩
    exact ⟨_, mem_entries hf, fileIn_eq_some.mpr ⟨contents, rfl⟩⟩

def inTheWay (tree : FileTree) (dir : Path) (extension : Text) : Except FileError (List Text) :=
  ((existingOutputs dir extension : Action _) tree).1

lemma run_existingOutputs (tree : FileTree) (dir : Path) (extension : Text) :
    (existingOutputs dir extension : Action _) tree = (tree.inTheWay dir extension, tree) := by
  refine Prod.ext rfl ?_
  simp only [existingOutputs, run_bind, run_exists_]
  split <;> rfl

lemma inTheWay_absent (hx : tree.exists_ dir = false) (extension : Text) :
    tree.inTheWay dir extension = .ok [] := by
  simp [inTheWay, existingOutputs, hx]

lemma inTheWay_present (hx : tree.exists_ dir = true) (extension : Text) : tree.inTheWay dir extension =
    (tree.fileNames dir).map fun found =>
      Text.sort ((found.map OsText.shown).filter ((extensionSuffix extension).isSuffixOf ·)) := by
  simp only [inTheWay, existingOutputs, run_bind, run_exists_, hx, if_true, run_fileNames, run_pure]

lemma inTheWay_of_isDirectory (hd : tree.isDirectory dir = true) (extension : Text) :
    ∃ names, tree.inTheWay dir extension = .ok names := by
  rw [inTheWay_present (exists_of_isDirectory hd)]
  obtain ⟨upper, hr, hu⟩ := isDirectory_iff.mp hd
  simp [fileNames, hr, hu, bind, Except.bind, pure, Except.pure, Except.map]

lemma mem_inTheWay (hn : tree.inTheWay dir extension = .ok names) (hx : tree.exists_ dir = true)
    (hr : tree.resolve dir = .ok upper) (hf : tree.find? (upper ++ [name]) = some (.file contents))
    (hs : extensionSuffix extension <:+ name.shown) : name.shown ∈ names := by
  rw [inTheWay_present hx] at hn
  cases hd : tree.fileNames dir with
  | error e =>
    rw [hd] at hn
    cases hn
  | ok found =>
    rw [hd] at hn
    cases hn
    refine (Text.sort_perm _).mem_iff.mpr (List.mem_filter.mpr ⟨?_, List.isSuffixOf_iff_suffix.mpr hs⟩)
    exact List.mem_map_of_mem (mem_fileNames hd hr hf)

def Holds (tree : FileTree) (dir : Path) (name : OsText) : Prop :=
  ∃ upper contents, tree.resolve dir = .ok upper ∧ tree.find? upper = some .directory ∧
    tree.find? (upper ++ [name]) = some (.file contents)

def NamedInText (tree : FileTree) (dir : Path) : Prop := ∀ name, tree.Holds dir name → ∃ text : Text, name = text

/-- These are the files that stand in a directory and have an extension, in the order of their bytes, each by its
name as it is shown. -/
structure Lists (tree : FileTree) (dir : Path) (extension : Text) (names : List Text) : Prop where
  sorted : names.Pairwise fun name later => ¬ later.bytes < name.bytes
  shown : ∃ found : List OsText, found.Nodup ∧ (∀ name, name ∈ found ↔ tree.Holds dir name) ∧
    names.Perm ((found.map OsText.shown).filter ('.' :: extension.dropWhile (· = '.')).isSuffixOf)

structure ListsTexts (tree : FileTree) (dir : Path) (extension : Text) (names : List Text) : Prop where
  sorted : names.Pairwise fun name later => name.bytes < later.bytes
  mem_iff (name : Text) : name ∈ names ↔ '.' :: extension.dropWhile (· = '.') <:+ name ∧ tree.Holds dir name

lemma lists_inTheWay (hd : tree.Distinct) (hn : tree.inTheWay dir extension = .ok names) :
    tree.Lists dir extension names := by
  cases hx : tree.exists_ dir with
  | false =>
    rw [inTheWay_absent hx] at hn
    cases hn
    refine ⟨.nil, [], .nil, ?_, .refl _⟩
    intro name
    refine iff_of_false List.not_mem_nil ?_
    rintro ⟨upper, -, hr, hu, -⟩
    rw [exists_of_isDirectory (isDirectory_iff.mpr ⟨upper, hr, hu⟩)] at hx
    cases hx
  | true =>
    rw [inTheWay_present hx] at hn
    cases hf : tree.fileNames dir with
    | error e =>
      rw [hf] at hn
      cases hn
    | ok found =>
      rw [hf] at hn
      cases hn
      obtain ⟨upper, hr, hu, rfl⟩ := fileNames_ok hf
      refine ⟨(Text.sort_pairwise _).imp Text.bytes_not_lt, _, nodup_fileIn hd upper, ?_, Text.sort_perm _⟩
      intro name
      rw [mem_fileIn hd]
      constructor
      · rintro ⟨contents, hc⟩
        exact ⟨upper, contents, hr, hu, hc⟩
      · rintro ⟨other, contents, ho, -, hc⟩
        cases hr.symm.trans ho
        exact ⟨contents, hc⟩

lemma Lists.texts (h : tree.Lists dir extension names) (htexts : tree.NamedInText dir) :
    tree.ListsTexts dir extension names := by
  obtain ⟨hsorted, found, hnodup, hfound, hperm⟩ := h
  have hshown : (found.map OsText.shown).map Text.os = found := by
    rw [List.map_map, List.map_congr_left (g := id), List.map_id]
    intro name hm
    obtain ⟨text, rfl⟩ := htexts name ((hfound name).mp hm)
    exact congrArg Text.os OsText.shown_os
  have hnames : names.Nodup := by
    rw [← hshown] at hnodup
    exact hperm.nodup_iff.mpr ((List.Pairwise.of_map Text.os (fun _ _ => mt (congrArg _)) hnodup).filter _)
  constructor
  · exact (hsorted.and hnames).imp fun ⟨hle, hne⟩ => Text.bytes_lt_of_ne hle hne
  · intro name
    have hmem : Text.os name ∈ found ↔ name ∈ found.map OsText.shown := by
      rw [← List.mem_map_of_injective Text.os_injective, hshown]
    rw [hperm.mem_iff, List.mem_filter, List.isSuffixOf_iff_suffix, and_comm, ← hmem, hfound]

end FileTree

lemma extensionSuffix_eq {c : Char} (hc : c ≠ '.') (rest : Text) :
    extensionSuffix (c :: rest) = '.' :: c :: rest := by
  rw [extensionSuffix, List.dropWhile_cons_of_neg (by simpa using hc)]

lemma SplitOptions.extensionFor_eq (options : SplitOptions) (input : Path) :
    ∃ c rest, options.extensionFor input = c :: rest ∧ c ≠ '.' := by
  rw [extensionFor]
  split
  · rename_i c rest h
    obtain ⟨given, -, hd⟩ := Option.map_eq_some_iff.mp h
    have hc := List.head?_dropWhile_not (· = '.') given
    rw [hd] at hc
    exact ⟨c, rest, rfl, by simpa using hc⟩
  · rw [Path.outputExtension]
    split
    · exact ⟨_, _, rfl, by decide⟩
    · exact ⟨_, _, rfl, by decide⟩
    · exact ⟨_, _, rfl, by decide⟩

lemma fileName_counts {c : Char} (hc : c ≠ '.') (name rest : Text) :
    counts (fileName name (c :: rest)) = true ∧ Text.os (fileName name (c :: rest)) ≠ above := by
  constructor
  · refine Path.counts_iff.mpr ⟨?_, ?_⟩ <;> cases name <;> simp [fileName]
  · intro h
    have hdots : name ++ '.' :: c :: rest = ['.', '.'] := Text.os_inj.mp h
    cases name with
    | nil =>
      cases hdots
      exact hc rfl
    | cons first name =>
      have hl := congrArg List.length hdots
      simp at hl
      omega

end DeclSplit
