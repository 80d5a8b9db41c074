import DeclSplit.Proofs.Split.Stages
import Mathlib.Control.Monad.Basic
import Mathlib.Data.List.Basic

/-! The write phase: tree, events and result tell of the same prefix of the plan. -/

namespace DeclSplit

open FileTree (Action)

def PlannedFile.event (file : PlannedFile) : SplitEvent := .wrote file.declaration file.path file.imports

def noteAll (plan : List PlannedFile) (noted : List (Text × Path)) : List (Text × Path) :=
  plan.foldl (fun noted file => noteFile file.declaration.name file.path noted) noted

namespace FileTree

def writeAll (tree : FileTree) : List PlannedFile → Except FileError FileTree
  | [] => .ok tree
  | file :: rest =>
    match tree.write file.path (.text file.contents) with
    | .error e => .error e
    | .ok later => later.writeAll rest

lemma writeAll_cons {tree later : FileTree} {file : PlannedFile}
    (h : tree.write file.path (.text file.contents) = .ok later) (rest : List PlannedFile) :
    tree.writeAll (file :: rest) = later.writeAll rest := by
  rw [writeAll, h]

end FileTree

/-- A plan was carried out on `tree` up to its first `k` files: `whole` is the result if those are all, and
the write of the next file failed if they are not. -/
structure WritesUpTo {α : Type} (plan : List PlannedFile) (k : ℕ) (tree : FileTree)
    (before : List SplitEvent) (whole : α) (ending : Outcome α × FileTree) : Prop where
  le : k ≤ plan.length
  written : tree.writeAll (plan.take k) = .ok ending.2
  events : ending.1.events = before ++ (plan.take k).map PlannedFile.event
  ok_iff : ending.1.result.isOk = true ↔ k = plan.length
  done : k = plan.length → ending.1.result = .ok whole
  stopped (h : k < plan.length) : ∃ e,
    ending.2.write plan[k].path (.text plan[k].contents) = .error e ∧
      ending.1.result = .error (.writeFile plan[k].path e)

namespace WritesUpTo

variable {α β : Type} {plan : List PlannedFile} {k : ℕ} {tree later : FileTree}
  {before : List SplitEvent} {whole : α} {ending : Outcome α × FileTree}

lemma nil (noted : α) : WritesUpTo [] 0 tree [] noted (⟨[], .ok noted⟩, tree) where
  le := Nat.le_refl 0
  written := rfl
  events := rfl
  ok_iff := by simp [Except.isOk, Except.toBool]
  done _ := rfl
  stopped h := absurd h (Nat.lt_irrefl 0)

lemma fail {file : PlannedFile} {e : FileError} (h : tree.write file.path (.text file.contents) = .error e)
    (rest : List PlannedFile) (whole : α) :
    WritesUpTo (file :: rest) 0 tree [] whole (⟨[], .error (.writeFile file.path e)⟩, tree) where
  le := Nat.zero_le _
  written := rfl
  events := rfl
  ok_iff := by simp [Except.isOk, Except.toBool]
  done h := by simp at h
  stopped _ := ⟨e, h, rfl⟩

lemma cons {file : PlannedFile} (hw : tree.write file.path (.text file.contents) = .ok later)
    (h : WritesUpTo plan k later [] whole ending) :
    WritesUpTo (file :: plan) (k + 1) tree [] whole
      (⟨file.event :: ending.1.events, ending.1.result⟩, ending.2) where
  le := Nat.succ_le_succ h.le
  written := by
    rw [List.take_succ_cons, FileTree.writeAll_cons hw]
    exact h.written
  events := by simp [h.events]
  ok_iff := by
    rw [List.length_cons, Nat.add_right_cancel_iff]
    exact h.ok_iff
  done hk := h.done (Nat.succ.inj hk)
  stopped hk := h.stopped (Nat.lt_of_succ_lt_succ hk)

lemma prepend (h : WritesUpTo plan k tree before whole ending) (earlier : List SplitEvent) :
    WritesUpTo plan k tree (earlier ++ before) whole
      (⟨earlier ++ ending.1.events, ending.1.result⟩, ending.2) where
  le := h.le
  written := h.written
  events := by rw [h.events, List.append_assoc]
  ok_iff := h.ok_iff
  done := h.done
  stopped := h.stopped

lemma map (h : WritesUpTo plan k tree before whole ending) (f : α → β) :
    WritesUpTo plan k tree before (f whole) (⟨ending.1.events, ending.1.result.map f⟩, ending.2) where
  le := h.le
  written := h.written
  events := h.events
  ok_iff := by
    rw [← h.ok_iff]
    cases ending.1.result <;> rfl
  done hk := by
    rw [h.done hk]
    rfl
  stopped hk := by
    obtain ⟨e, hw, hr⟩ := h.stopped hk
    exact ⟨e, hw, by rw [hr]; rfl⟩

end WritesUpTo

lemma writeFiles_run (plan : List PlannedFile) (noted : List (Text × Path)) (tree : FileTree) :
    ∃ k, WritesUpTo plan k tree [] (noteAll plan noted) ((writeFiles plan noted : Action _) tree) := by
  induction plan generalizing noted tree with
  | nil => exact ⟨0, .nil noted⟩
  | cons file rest ih =>
    rw [writeFiles, FileTree.run_bind]
    cases hw : tree.write file.path (.text file.contents) with
    | error e =>
      rw [FileTree.run_writeText_of_error hw]
      exact ⟨0, .fail hw rest _⟩
    | ok later =>
      rw [FileTree.run_writeText_of_ok hw]
      obtain ⟨k, hk⟩ := ih (noteFile file.declaration.name file.path noted) later
      exact ⟨k + 1, .cons hw hk⟩

section Split

variable {dir : Path} {tree made : FileTree}

lemma write_run (ready : tree.makeDirectories dir = (.ok (), made)) (all : Declarations) (input : Path)
    (options : SplitOptions) :
    ∃ k, WritesUpTo (all.plan dir (options.extensionFor input) options.mode) k made
      [.directory dir (!tree.exists_ dir)]
      ⟨all.size, noteAll (all.plan dir (options.extensionFor input) options.mode) []⟩
      ((all.write input (some dir) options : Action _) tree) := by
  obtain ⟨k, hk⟩ := writeFiles_run (all.plan dir (options.extensionFor input) options.mode) [] made
  refine ⟨k, ?_⟩
  have hm := (hk.map (fun files => (⟨all.size, files⟩ : SplitResult))).prepend
    [.directory dir (!tree.exists_ dir)]
  simp only [Declarations.write, FileTree.run_bind, FileTree.run_exists_, FileTree.run_makeDirectories, ready]
  exact hm

theorem split_writes_prefix_of_plan (ready : tree.makeDirectories dir = (.ok (), made)) (all : Declarations)
    (input : Path) (options : SplitOptions) :
    let plan := all.plan dir (options.extensionFor input) options.mode
    let created := SplitEvent.directory dir (!tree.exists_ dir)
    let whole : SplitResult := ⟨all.size, noteAll plan []⟩
    ∃ k, WritesUpTo plan k made [created] whole ((all.write input (some dir) options : Action _) tree) ∧
      ∀ source parsed, ParsedSource.read source input = .ok parsed → parsed.declarations = all →
        all.isEmpty = false →
        let before := parsed.diagnostics.map (.diagnostic input) ++ [.found all.size, created]
        WritesUpTo plan k made before whole ((splitSource source input (some dir) options : Action _) tree) ∧
          (tree.readText input = .ok source →
            WritesUpTo plan k made before whole ((splitFile input (some dir) options : Action _) tree)) := by
  intro plan created whole
  obtain ⟨k, hk⟩ := write_run ready all input options
  refine ⟨k, hk, ?_⟩
  intro source parsed hr hall hs before
  subst hall
  have hp := hk.prepend (parsed.diagnostics.map (.diagnostic input) ++ [.found parsed.declarations.size])
  have hsource : WritesUpTo plan k made before whole
      ((splitSource source input (some dir) options : Action _) tree) := by
    rw [splitSource_found (ofSource_found hr hs)]
    simpa only [List.append_assoc, List.cons_append, List.nil_append] using hp
  refine ⟨hsource, ?_⟩
  intro ht
  rw [splitFile_text ht]
  exact hsource

def occupied : FileTree :=
  ⟨[(["a.ts"], .file (.text "type A = B; type B = 1;")), (["out"], .directory), (["out", "B.ts"], .directory)]⟩

def occupants : Declarations :=
  { aliases := [⟨"A", .typeAlias, "type A = B;", false, ⟨0, 11⟩⟩,
      ⟨"B", .typeAlias, "type B = 1;", false, ⟨12, 23⟩⟩] }

theorem split_stops_at_occupied_place :
    occupied.makeDirectories "out" = (.ok (), occupied) ∧
      ParsedSource.read "type A = B; type B = 1;" "a.ts" = .ok ⟨occupants, []⟩ ∧ occupants.isEmpty = false ∧
      occupied.readText "a.ts" = .ok "type A = B; type B = 1;" ∧
      ∃ k < 2, WritesUpTo (occupants.plan "out" "ts" .substring) k occupied
        [.found 2, .directory "out" false] ⟨2, noteAll (occupants.plan "out" "ts" .substring) []⟩
        ((splitFile "a.ts" (some "out") {} : Action _) occupied) := by
  have ready : occupied.makeDirectories "out" = (.ok (), occupied) := by decide +kernel
  have read : ParsedSource.read "type A = B; type B = 1;" "a.ts" = .ok ⟨occupants, []⟩ := by decide +kernel
  have some_ : occupants.isEmpty = false := by decide
  have text : occupied.readText "a.ts" = .ok "type A = B; type B = 1;" := by decide +kernel
  obtain ⟨k, _, hk⟩ := split_writes_prefix_of_plan ready occupants "a.ts" {}
  have hf := (hk _ _ read rfl some_).2 text
  have hne : k ≠ 2 := by
    intro h
    have hok := hf.ok_iff.mpr h
    revert hok
    decide +kernel
  exact ⟨ready, read, some_, text, k, Nat.lt_of_le_of_ne hf.le hne, hf⟩

end Split

end DeclSplit
