import DeclSplit.Proofs.Files.Frames
import DeclSplit.Proofs.Split.Endings

/-! The places that a split touches in a tree without links, however it ends. -/

namespace DeclSplit

open FileTree (Action Frame site)

variable {tree : FileTree} {source : Text} {input dir : Path} {options : SplitOptions}
  {ending : Outcome SplitResult × FileTree}

namespace FileTree

lemma components_of_mem_ancestors {path above : Path} (h : above ∈ ancestors path) :
    ∃ n, above.components = path.components.take n := by
  have hmem : above ∈ path :: path.parents := by
    rw [ancestors] at h
    split at h
    · cases h
    · exact h
  rcases List.mem_cons.mp hmem with rfl | hparent
  · exact ⟨above.components.length, List.take_length.symm⟩
  · obtain ⟨n, hn, rfl⟩ := List.mem_map.mp (List.mem_reverse.mp hparent)
    have hrange := List.mem_range'_1.mp hn
    have hclean : Path.Clean (path.components.take n) :=
      fun name ht => Path.clean_components path name (List.mem_of_mem_take ht)
    have hne : path.components.take n ≠ [] := by
      rw [Ne, ← List.length_eq_zero_iff, List.length_take]
      omega
    exact ⟨n, Path.components_ofComponents hclean hne⟩

end FileTree

/-- The places that the first names of a directory's path spell. -/
def OnTheWayTo (dir : Path) (location : Location) : Prop := ∃ n, location = site (dir.components.take n)

def PlannedPlace (source : Text) (input dir : Path) (options : SplitOptions) (location : Location) : Prop :=
  ∃ parsed, ParsedSource.read source input = .ok parsed ∧
    ∃ file ∈ parsed.plan input dir options, location = site file.path.components

lemma SplitEnds.frame (ends : SplitEnds tree source input dir options ending) (linkless : tree.Linkless) :
    Frame (OnTheWayTo dir) (PlannedPlace source input dir options) tree ending.2 := by
  apply ends.keep (P := Frame (OnTheWayTo dir) (PlannedPlace source input dir options) tree)
  · intro path hpath before later frame hm
    obtain ⟨n, hn⟩ := FileTree.components_of_mem_ancestors hpath
    exact frame.trans (.makeDirectory (frame.linkless linkless) hm ⟨n, congrArg site hn⟩)
  · intro parsed hr file hfile before later frame hw
    exact frame.trans (.write (frame.linkless linkless) hw ⟨parsed, hr, file, hfile, rfl⟩)
  · exact .refl tree

theorem split_touches_only_planned_places (linkless : tree.Linkless) (input : Path) (options : SplitOptions) :
    (∀ source dir, Frame (OnTheWayTo dir) (PlannedPlace source input dir options) tree
      ((splitSource source input (some dir) options : Action _) tree).2) ∧
    (∀ dir, Frame (OnTheWayTo dir)
      (fun location => ∃ source, tree.readText input = .ok source ∧
        PlannedPlace source input dir options location) tree
      ((splitFile input (some dir) options : Action _) tree).2) ∧
    (∀ source, ((splitSource source input none options : Action _) tree).2 = tree) ∧
    ((splitFile input none options : Action _) tree).2 = tree := by
  refine ⟨?_, ?_, fun source => splitSource_none source input options tree, splitFile_none input options tree⟩
  · intro source dir
    exact (splitSource_ends tree source input dir options).frame linkless
  · intro dir
    rcases splitFile_ends tree input dir options with ⟨cause, he⟩ | ⟨source, ht, ends⟩
    · rw [he]
      exact .refl tree
    · exact (ends.frame linkless).mono fun location h => ⟨source, ht, h⟩

def alone : FileTree := ⟨[(["a.ts"], .file (.text "type A = 1;"))]⟩

theorem halted_split_touches_only_planned_places :
    let ending := (splitFile "a.ts" (some "new/../a.ts/deep") {} : Action _) alone
    alone.Linkless ∧ ending.1.result = .error (.createDirectory "new/../a.ts/deep" .exists_) ∧
      ending.2.find? ["new"] = some .directory ∧ OnTheWayTo "new/../a.ts/deep" ["new"] := by
  intro ending
  have linkless : alone.Linkless := FileTree.linkless_of_entries (by simp [alone])
  have stopped : ending.1.result = .error (.createDirectory "new/../a.ts/deep" .exists_) := by decide +kernel
  have made : ending.2.find? ["new"] = some .directory := by decide +kernel
  have frame := (split_touches_only_planned_places linkless "a.ts" {}).2.1 "new/../a.ts/deep"
  rcases frame.new (by decide) made with ⟨-, hway⟩ | ⟨⟨contents, he⟩, -⟩
  · exact ⟨linkless, stopped, made, hway⟩
  · cases he

end DeclSplit
