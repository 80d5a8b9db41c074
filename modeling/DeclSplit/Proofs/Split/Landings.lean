import DeclSplit.Proofs.Files.Changes
import DeclSplit.Proofs.Split.WritePhase

/-! Where planned files land.  Writing moves no way, so the tree before the first write tells already where
each file goes, and the last file that goes to a location is what it holds in the end. -/

namespace DeclSplit.FileTree

variable {tree final : FileTree} {file : PlannedFile} {files : List PlannedFile} {path : Path}
  {location : Location}

lemma writeAll_cons_ok_iff : tree.writeAll (file :: files) = .ok final ↔
    ∃ location, tree.writable file.path = .ok location ∧
      (tree.put location (.file (.text file.contents))).writeAll files = .ok final := by
  constructor
  · intro h
    rw [writeAll] at h
    split at h
    · cases h
    · rename_i later hw
      obtain ⟨location, hl, rfl⟩ := write_ok_iff.mp hw
      exact ⟨location, hl, h⟩
  · rintro ⟨location, hl, h⟩
    rwa [writeAll_cons (write_ok_iff.mpr ⟨location, hl, rfl⟩)]

lemma writeAll_keep {P : FileTree → Prop}
    (step : ∀ file ∈ files, ∀ tree later, P tree → tree.write file.path (.text file.contents) = .ok later → P later)
    (h : P tree) (hw : tree.writeAll files = .ok final) : P final := by
  induction files generalizing tree with
  | nil =>
    cases hw
    exact h
  | cons file files ih =>
    obtain ⟨location, hl, hr⟩ := writeAll_cons_ok_iff.mp hw
    have hfirst := step file List.mem_cons_self _ _ h (write_ok_iff.mpr ⟨location, hl, rfl⟩)
    exact ih (fun file hf => step file (List.mem_cons_of_mem _ hf)) hfirst hr

lemma keepsWays_write {later : FileTree} {contents : Contents} (h : tree.write path contents = .ok later) :
    tree.KeepsWays later := by
  obtain ⟨location, hl, rfl⟩ := write_ok_iff.mp h
  exact keepsWays_put_file (spot_of_writable hl) _

lemma keepsWays_writeAll (h : tree.writeAll files = .ok final) : tree.KeepsWays final :=
  writeAll_keep (fun _ _ _ _ kept hw => kept.trans (keepsWays_write hw)) (.refl tree) h

lemma writable_writeAll {path : Path} {location : Location} (h : tree.writeAll files = .ok final) :
    final.writable path = .ok location ↔ tree.writable path = .ok location := by
  induction files generalizing tree with
  | nil =>
    cases h
    rfl
  | cons file files ih =>
    obtain ⟨spot, hl, hr⟩ := writeAll_cons_ok_iff.mp h
    rw [ih hr, writable_put_file (spot_of_writable hl)]

def lastTo (tree : FileTree) (location : Location) (files : List PlannedFile) : Option PlannedFile :=
  (files.filter fun file => tree.writable file.path = .ok location).getLast?

lemma lastTo_mem (h : tree.lastTo location files = some file) :
    file ∈ files ∧ tree.writable file.path = .ok location := by
  have hm := List.mem_of_getLast? h
  simpa using hm

lemma lastTo_isSome (hm : file ∈ files) (hl : tree.writable file.path = .ok location) :
    ∃ last, tree.lastTo location files = some last := by
  have hf : file ∈ files.filter fun file => tree.writable file.path = .ok location := by
    simpa using ⟨hm, hl⟩
  exact ⟨_, List.getLast?_eq_some_getLast (List.ne_nil_of_mem hf)⟩

lemma lastTo_put_file {spot : Location} (hs : tree.Spot spot) (contents : Contents) (location : Location)
    (files : List PlannedFile) :
    (tree.put spot (.file contents)).lastTo location files = tree.lastTo location files := by
  rw [lastTo, lastTo]
  congr 1
  apply List.filter_congr
  intro file _
  exact decide_eq_decide.mpr (writable_put_file hs contents)

lemma lastTo_cons : tree.lastTo location (file :: files) =
    (tree.lastTo location files).or
      (if tree.writable file.path = .ok location then some file else none) := by
  by_cases hl : tree.writable file.path = .ok location
  · rw [lastTo, List.filter_cons_of_pos (by simpa using hl), List.getLast?_cons, if_pos hl, lastTo]
    cases (files.filter fun file => tree.writable file.path = .ok location).getLast? <;> rfl
  · rw [lastTo, List.filter_cons_of_neg (by simpa using hl), if_neg hl, Option.or_none, lastTo]

theorem find?_writeAll (h : tree.writeAll files = .ok final) (location : Location) :
    final.find? location =
      ((tree.lastTo location files).map fun file => .file (.text file.contents)).or (tree.find? location) := by
  induction files generalizing tree with
  | nil =>
    cases h
    rfl
  | cons file files ih =>
    obtain ⟨spot, hl, hr⟩ := writeAll_cons_ok_iff.mp h
    have hs := spot_of_writable hl
    rw [ih hr, lastTo_put_file hs, lastTo_cons, find?_put_eq hs.ne_nil]
    cases tree.lastTo location files with
    | some last => rfl
    | none =>
      by_cases hspot : location = spot
      · subst hspot
        simp [hl]
      · have hne : tree.writable file.path ≠ .ok location := by
          rw [hl]
          exact fun e => hspot (Except.ok.inj e).symm
        simp [hne, hspot]

lemma lands_of_writeAll (h : tree.writeAll files = .ok final) (hm : file ∈ files) :
    ∃ location, tree.writable file.path = .ok location := by
  induction files generalizing tree with
  | nil => cases hm
  | cons first files ih =>
    obtain ⟨spot, hl, hr⟩ := writeAll_cons_ok_iff.mp h
    rcases List.mem_cons.mp hm with rfl | hm
    · exact ⟨spot, hl⟩
    · obtain ⟨location, hw⟩ := ih hr hm
      exact ⟨location, (writable_put_file (spot_of_writable hl) _).mp hw⟩

lemma entryAt_writeAll (h : tree.writeAll files = .ok final) (hm : file ∈ files) :
    ∃ contents, final.entryAt file.path = .ok (.file contents) := by
  obtain ⟨location, hl⟩ := lands_of_writeAll h hm
  obtain ⟨last, hlast⟩ := lastTo_isSome hm hl
  have hr : final.resolve file.path = .ok location :=
    resolve_keep (keepsWays_writeAll h) Bool.noConfusion (writable_ok_iff.mp hl).1
  refine ⟨.text last.contents, ?_⟩
  simp only [entryAt, hr, bind, Except.bind]
  rw [find?_writeAll h, hlast]
  rfl

def SamePlace (tree : FileTree) (path other : Path) : Prop :=
  ∃ location, tree.resolve path = .ok location ∧ tree.resolve other = .ok location

instance (tree : FileTree) (path other : Path) : Decidable (tree.SamePlace path other) :=
  match h : tree.resolve path with
  | .ok location => decidable_of_iff (tree.resolve other = .ok location) (by simp [SamePlace, h])
  | .error e => isFalse (by simp [SamePlace, h])

lemma readText_ok_iff {source : Text} : tree.readText path = .ok source ↔
    ∃ location, tree.resolve path = .ok location ∧ tree.find? location = some (.file (.text source)) := by
  rw [readText, entryAt]
  cases tree.resolve path with
  | error e => simp [bind, Except.bind]
  | ok location =>
    rcases hf : tree.find? location with _ | ⟨_ | _⟩ | _ | _ <;>
      simp [bind, Except.bind, pure, Except.pure, throw, throwThe, MonadExceptOf.throw, hf]

end DeclSplit.FileTree
