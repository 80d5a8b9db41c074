import DeclSplit.Proofs.Files.Putting
import DeclSplit.Proofs.Files.Remaking
import DeclSplit.Proofs.Split.Endings
import DeclSplit.Proofs.Split.Landings
import Mathlib.Data.List.Forall2

/-! Splitting once more: a second split finds what the first one left, and leaves it so. -/

namespace DeclSplit

open FileTree (Action)

variable {tree made later final : FileTree} {plan : List PlannedFile} {k m : ℕ}

namespace FileTree

lemma writeAll_puts (h : tree.writeAll plan = .ok final) : ∃ puts, final = tree.putAll puts ∧
    ∀ later : FileTree, (∀ path location, later.writable path = .ok location ↔ tree.writable path = .ok location) →
      later.writeAll plan = .ok (later.putAll puts) := by
  induction plan generalizing tree with
  | nil =>
    cases h
    exact ⟨[], rfl, fun _ _ => rfl⟩
  | cons file plan ih =>
    obtain ⟨spot, hl, hr⟩ := writeAll_cons_ok_iff.mp h
    obtain ⟨puts, hputs, hall⟩ := ih hr
    refine ⟨(spot, .text file.contents) :: puts, hputs, ?_⟩
    intro later hsame
    have hl' := (hsame _ _).mpr hl
    refine writeAll_cons_ok_iff.mpr ⟨spot, hl', hall _ ?_⟩
    intro path location
    rw [writable_put_file (spot_of_writable hl'), writable_put_file (spot_of_writable hl), hsame]

theorem writeAll_again (h : tree.writeAll plan = .ok final) : final.writeAll plan = .ok final := by
  obtain ⟨puts, rfl, hall⟩ := writeAll_puts h
  rw [hall _ fun _ _ => writable_writeAll h, putAll_putAll]

lemma writeAll_take_le {e : FileError} (hw : tree.writeAll (plan.take k) = .ok final) (hk : k < plan.length)
    (he : final.write plan[k].path (.text plan[k].contents) = .error e)
    (hm : tree.writeAll (plan.take m) = .ok later) (hle : m ≤ plan.length) : m ≤ k := by
  induction plan generalizing tree k m with
  | nil => simp at hk
  | cons file plan ih =>
    cases m with
    | zero => exact Nat.zero_le k
    | succ m =>
      rw [List.take_succ_cons] at hm
      obtain ⟨spot, hl, hr⟩ := writeAll_cons_ok_iff.mp hm
      cases k with
      | zero =>
        cases hw
        rw [List.getElem_cons_zero, write_ok_iff.mpr ⟨spot, hl, rfl⟩] at he
        cases he
      | succ k =>
        rw [List.take_succ_cons] at hw
        obtain ⟨spot', hl', hr'⟩ := writeAll_cons_ok_iff.mp hw
        obtain rfl : spot' = spot := Except.ok.inj (hl'.symm.trans hl)
        exact Nat.succ_le_succ (ih hr' (Nat.lt_of_succ_lt_succ hk) he hr (Nat.le_of_succ_le_succ hle))

end FileTree

inductive SplitEvent.Alike : SplitEvent → SplitEvent → Prop
  | same (event) : Alike event event
  | directory (dir created again) : Alike (.directory dir created) (.directory dir again)

/-- A second run repeats the first and leaves things as they are.  Only the cause for which a directory cannot
be created may differ, since the ways to it have become longer. -/
structure Repeats {α : Type} (first second : Outcome α × FileTree) : Prop where
  tree : second.2 = first.2
  result : second.1.result = first.1.result ∨
    ∃ dir cause again, first.1.result = .error (.createDirectory dir cause) ∧
      second.1.result = .error (.createDirectory dir again)
  events : List.Forall₂ SplitEvent.Alike first.1.events second.1.events

def Repeatable {α : Type} (action : Action (Outcome α)) (tree : FileTree) : Prop :=
  Repeats (action tree) (action (action tree).2)

lemma alike_refl (events : List SplitEvent) : List.Forall₂ SplitEvent.Alike events events :=
  List.forall₂_same.mpr fun event _ => .same event

namespace Repeats

variable {α : Type} {first second : Outcome α × FileTree}

lemma refl (first : Outcome α × FileTree) : Repeats first first := ⟨rfl, .inl rfl, alike_refl _⟩

lemma prepend (h : Repeats first second) (earlier : List SplitEvent) :
    Repeats (⟨earlier ++ first.1.events, first.1.result⟩, first.2)
      (⟨earlier ++ second.1.events, second.1.result⟩, second.2) where
  tree := h.tree
  result := h.result
  events := List.rel_append (alike_refl earlier) h.events

end Repeats

lemma WritesUpTo.again {α : Type} {before before' : List SplitEvent} {whole : α}
    {first second : Outcome α × FileTree} (hf : WritesUpTo plan k tree before whole first)
    (hs : WritesUpTo plan m first.2 before' whole second) (hb : List.Forall₂ SplitEvent.Alike before before') :
    Repeats first second := by
  have hagain := FileTree.writeAll_again hf.written
  -- What the first run has written can be written again, so neither run gets past the stop of the other.
  have hle : m ≤ k := by
    rcases Nat.lt_or_eq_of_le hf.le with hlt | heq
    · obtain ⟨e, he, -⟩ := hf.stopped hlt
      exact FileTree.writeAll_take_le hagain hlt he hs.written hs.le
    · exact heq ▸ hs.le
  have hge : k ≤ m := by
    rcases Nat.lt_or_eq_of_le hs.le with hlt | heq
    · obtain ⟨e, he, -⟩ := hs.stopped hlt
      exact FileTree.writeAll_take_le hs.written hlt he hagain hf.le
    · exact heq ▸ hf.le
  obtain rfl := Nat.le_antisymm hle hge
  have htree : second.2 = first.2 := Except.ok.inj (hs.written.symm.trans hagain)
  refine ⟨htree, .inl ?_, ?_⟩
  · rcases Nat.lt_or_eq_of_le hf.le with hlt | heq
    · obtain ⟨e, he, hr⟩ := hf.stopped hlt
      obtain ⟨e', he', hr'⟩ := hs.stopped hlt
      rw [htree, he] at he'
      cases he'
      rw [hr, hr']
    · rw [hf.done heq, hs.done heq]
  · rw [hf.events, hs.events]
    exact List.rel_append hb (alike_refl _)

variable {source : Text} {input dir : Path} {options : SplitOptions} {all : Declarations}

lemma write_again (all : Declarations) (input : Path) (dir : Option Path) (options : SplitOptions)
    (tree : FileTree) : Repeatable (all.write input dir options) tree := by
  rw [Repeatable]
  cases dir with
  | none => exact .refl _
  | some dir =>
    rcases hm : tree.makeDirectories dir with ⟨cause | u, made⟩
    · obtain ⟨cause', hm'⟩ := FileTree.makeDirectories_again_error hm
      rw [write_unready hm, write_unready hm']
      exact ⟨rfl, .inr ⟨dir, cause, cause', rfl, rfl⟩, .nil⟩
    · obtain ⟨k, hk⟩ := write_run hm all input options
      have hkept := FileTree.keepsWays_writeAll hk.written
      obtain ⟨m, hl⟩ := write_run (FileTree.makeDirectories_again hm hkept) all input options
      exact hk.again hl (.cons (.directory _ _ _) .nil)

lemma splitSource_again (source : Text) (input : Path) (dir : Option Path) (options : SplitOptions)
    (tree : FileTree) : Repeatable (splitSource source input dir options) tree := by
  rw [Repeatable]
  rcases hfound : Declarations.ofSource source input with ⟨events, e | all⟩
  · rw [splitSource_error hfound, splitSource_error hfound]
    exact .refl _
  · rw [splitSource_found hfound, splitSource_found hfound]
    exact (write_again all input dir options tree).prepend events

lemma readText_again {ending : Outcome SplitResult × FileTree} (ht : tree.readText input = .ok source)
    (ends : SplitEnds tree source input dir options ending)
    (hp : ∀ parsed, ParsedSource.read source input = .ok parsed →
      ∀ file ∈ parsed.plan input dir options, ¬ ending.2.SamePlace file.path input) :
    ending.2.readText input = .ok source := by
  obtain ⟨location, hr, hf⟩ := FileTree.readText_ok_iff.mp ht
  have hadds := FileTree.makeDirectories_adds tree dir
  cases ends with
  | idle _ => exact ht
  | unready _ _ hm =>
    rw [hm] at hadds
    exact FileTree.readText_ok_iff.mpr
      ⟨location, FileTree.resolve_keep hadds.keepsWays id hr, hadds.file_iff.mpr hf⟩
  | @ready parsed made k _ hread _ hm hw =>
    rw [hm] at hadds
    have hkept := FileTree.keepsWays_writeAll hw.written
    have hr' := FileTree.resolve_keep hkept id (FileTree.resolve_keep hadds.keepsWays id hr)
    refine FileTree.readText_ok_iff.mpr ⟨location, hr', ?_⟩
    -- No planned file goes to the place of the source, so that place holds what it held before the writes.
    have hnone : made.lastTo location ((parsed.plan input dir options).take k) = none := by
      cases hlast : made.lastTo location ((parsed.plan input dir options).take k) with
      | none => rfl
      | some file =>
        obtain ⟨hmem, hl⟩ := FileTree.lastTo_mem hlast
        have hplace := FileTree.resolve_keep (v := false) hkept (by simp) (FileTree.writable_ok_iff.mp hl).1
        exact absurd ⟨location, hplace, hr'⟩ (hp parsed hread file (List.mem_of_mem_take hmem))
    rw [FileTree.find?_writeAll hw.written, hnone]
    exact hadds.file_iff.mpr hf

theorem split_again (input : Path) (dir : Option Path) (options : SplitOptions) (tree : FileTree) :
    (∀ source, Repeatable (splitSource source input dir options) tree) ∧
      ((∀ source parsed target, tree.readText input = .ok source →
          ParsedSource.read source input = .ok parsed → dir = some target →
          ∀ file ∈ parsed.plan input target options,
            ¬ ((splitFile input dir options : Action _) tree).2.SamePlace file.path input) →
        Repeatable (splitFile input dir options) tree) := by
  refine ⟨fun source => splitSource_again source input dir options tree, ?_⟩
  intro hp
  rw [Repeatable]
  cases ht : tree.readText input with
  | error cause =>
    rw [splitFile_error ht, splitFile_error ht]
    exact .refl _
  | ok source =>
    rw [splitFile_text ht] at hp ⊢
    have hagain : ((splitSource source input dir options : Action _) tree).2.readText input = .ok source := by
      cases dir with
      | none => rwa [splitSource_none]
      | some target =>
        exact readText_again ht (splitSource_ends tree source input target options)
          fun parsed hread => hp source parsed target ht hread rfl
    rw [splitFile_text hagain]
    exact splitSource_again source input dir options tree

def crossed : FileTree :=
  ⟨[(["a.ts"], .file (.text "type A = B; type B = 1;")), (["out"], .directory),
    (["out", "A.ts"], .link "B.ts")]⟩

theorem crossed_split_again :
    (∀ source parsed target, crossed.readText "a.ts" = .ok source →
        ParsedSource.read source "a.ts" = .ok parsed → some ("out" : Path) = some target →
        ∀ file ∈ parsed.plan "a.ts" target {},
          ¬ ((splitFile "a.ts" (some "out") {} : Action _) crossed).2.SamePlace file.path "a.ts") ∧
      Repeatable (splitFile "a.ts" (some "out") {}) crossed := by
  have apart : ∀ source parsed target, crossed.readText "a.ts" = .ok source →
      ParsedSource.read source "a.ts" = .ok parsed → some ("out" : Path) = some target →
      ∀ file ∈ parsed.plan "a.ts" target {},
        ¬ ((splitFile "a.ts" (some "out") {} : Action _) crossed).2.SamePlace file.path "a.ts" := by
    intro source parsed target ht hr hd
    have text : crossed.readText "a.ts" = .ok "type A = B; type B = 1;" := by decide +kernel
    have read : ParsedSource.read "type A = B; type B = 1;" "a.ts" = .ok ⟨occupants, []⟩ := by decide +kernel
    obtain rfl : source = "type A = B; type B = 1;" := Except.ok.inj (ht.symm.trans text)
    obtain rfl := Except.ok.inj (hr.symm.trans read)
    obtain rfl := Option.some.inj hd
    decide +kernel
  exact ⟨apart, (split_again "a.ts" (some "out") {} crossed).2 apart⟩

end DeclSplit
