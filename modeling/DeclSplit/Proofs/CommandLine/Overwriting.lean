import DeclSplit.Proofs.CommandLine.Attempts
import DeclSplit.Proofs.Files.Directories
import DeclSplit.Proofs.Split.Endings
import DeclSplit.Proofs.Split.Landings
import DeclSplit.Proofs.Split.Plans

/-! Files that are lost without leave to overwrite: those that the list of files in the way overlooks. -/

namespace DeclSplit

open FileTree (Action above mostLinks)
open DeclSplit.Path (counts)

variable {tree made : FileTree} {input dir : Path} {options : SplitOptions} {location : Location}
  {contents : Contents} {name extension : Text}

/-- The list of files in the way says nothing about the place of a name in a directory. -/
inductive Overlooked (tree : FileTree) (dir : Path) (name : Text) : Prop
  | elsewhere : '/' ∈ name → Overlooked tree dir name
  | later : tree.exists_ dir = false → dir.os = [] ∨ above ∈ dir.components → Overlooked tree dir name
  | link {upper target} : tree.resolve dir = .ok upper → tree.find? (upper ++ [name.os]) = some (.link target) →
      Overlooked tree dir name

lemma overlooked_of_writable (hr : tree.Rooted) (hm : tree.makeDirectories dir = (.ok (), made))
    (hg : tree.inTheWay dir extension = .ok []) (hs : extensionSuffix extension <:+ name)
    (hk : counts name.os = true) (ha : name.os ≠ above) (hw : made.writable (dir.join name) = .ok location)
    (hf : tree.find? location = some (.file contents)) : Overlooked tree dir name := by
  by_cases hslash : '/' ∈ name
  · exact .elsewhere hslash
  have hadds : tree.AddsDirectories made := by
    have := FileTree.makeDirectories_adds tree dir
    rwa [hm] at this
  obtain ⟨upper, hu, hplace⟩ := FileTree.writable_join hk (by simpa using hslash) ha hw
  cases hx : tree.exists_ dir with
  | true =>
    obtain ⟨upper', hr'⟩ : ∃ upper', tree.resolve dir = .ok upper' := FileTree.resolve_of_exists hx
    obtain rfl := ((FileTree.leads_components hr').keep hadds.keepsWays Bool.noConfusion).unique hu
    rcases hplace with rfl | ⟨target, ht⟩
    · exact absurd (FileTree.mem_inTheWay hg hx hr' hf (by rwa [OsText.shown_os])) List.not_mem_nil
    · exact .link hr' (hadds.keepsWays.link.mp ht)
  | false =>
    by_cases hlater : dir.os = [] ∨ above ∈ dir.components
    · exact .later hx hlater
    rw [not_or] at hlater
    have hfree := hr.free (FileTree.makeDirectories_new hr hm hx hlater.1 hlater.2 hu) name.os
    rcases hplace with rfl | ⟨target, ht⟩
    · rw [hfree] at hf
      cases hf
    · have ht' := hadds.keepsWays.link.mp ht
      rw [hfree] at ht'
      cases ht'

lemma SplitEnds.rooted {source : Text} {ending : Outcome SplitResult × FileTree} (hr : tree.Rooted)
    (h : SplitEnds tree source input dir options ending) : ending.2.Rooted :=
  h.keep (fun _ _ _ _ hr hm => hr.makeDirectory hm) (fun _ _ _ _ _ _ hr hw => hr.write hw) hr

/-- A split that ended in `final` put `file` at a location, and nothing after it. -/
def Replaces (tree final : FileTree) (input dir : Path) (options : SplitOptions) (location : Location)
    (file : PlannedFile) : Prop :=
  ∃ source parsed made k, tree.readText input = .ok source ∧ ParsedSource.read source input = .ok parsed ∧
    tree.makeDirectories dir = (.ok (), made) ∧
    made.writeAll ((parsed.plan input dir options).take k) = .ok final ∧
    made.lastTo location ((parsed.plan input dir options).take k) = some file

lemma Replaces.find? {final : FileTree} {file : PlannedFile}
    (h : Replaces tree final input dir options location file) :
    final.find? location = some (.file (.text file.contents)) := by
  obtain ⟨source, parsed, made, k, _, _, _, hw, hl⟩ := h
  rw [FileTree.find?_writeAll hw, hl]
  rfl

lemma Replaces.overlooked {final : FileTree} {file : PlannedFile} (hr : tree.Rooted)
    (hg : tree.inTheWay dir (options.extensionFor input) = .ok [])
    (h : Replaces tree final input dir options location file)
    (hf : tree.find? location = some (.file contents)) :
    Overlooked tree dir (fileName file.declaration.name (options.extensionFor input)) := by
  obtain ⟨source, parsed, made, k, _, _, hm, _, hl⟩ := h
  obtain ⟨hmem, hw⟩ := FileTree.lastTo_mem hl
  rw [Declarations.path_of_mem_plan (List.mem_of_mem_take hmem)] at hw
  obtain ⟨c, rest, he, hc⟩ := options.extensionFor_eq input
  rw [he] at hg hw ⊢
  obtain ⟨hk, ha⟩ := fileName_counts hc file.declaration.name rest
  refine overlooked_of_writable hr hm hg ?_ hk ha hw hf
  rw [extensionSuffix_eq hc]
  exact List.suffix_append _ _

lemma replaces_of_lost (hf : tree.find? location = some (.file contents))
    (hlost : ((splitFile input (some dir) options : Action _) tree).2.find? location ≠ some (.file contents)) :
    ∃ file, Replaces tree ((splitFile input (some dir) options : Action _) tree).2 input dir options
      location file := by
  rcases splitFile_ends tree input dir options with ⟨cause, he⟩ | ⟨source, ht, he⟩
  · rw [he] at hlost
    exact absurd hf hlost
  generalize (splitFile input (some dir) options : Action _) tree = ending at *
  cases he with
  | idle _ => exact absurd hf hlost
  | unready _ _ hm =>
    have hadds := FileTree.makeDirectories_adds tree dir
    rw [hm] at hadds
    exact absurd (hadds.file_iff.mpr hf) hlost
  | @ready parsed made k _ hr _ hm hw =>
    have hadds := FileTree.makeDirectories_adds tree dir
    rw [hm] at hadds
    cases hl : made.lastTo location ((parsed.plan input dir options).take k) with
    | none =>
      rw [FileTree.find?_writeAll hw.written, hl] at hlost
      exact absurd (hadds.file_iff.mpr hf) hlost
    | some file => exact ⟨file, source, parsed, made, k, ht, hr, hm, hw.written, hl⟩

namespace CommandLine

theorem run_rooted (around : Surroundings) (arguments : List OsText) (hr : tree.Rooted) :
    ((runProgram around arguments : Action Report) tree).2.Rooted := by
  by_cases ha : ∃ input dir options, Attempts tree arguments input dir options
  · obtain ⟨input, dir, options, ha⟩ := ha
    obtain ⟨names, filter, json, -, hrun⟩ := ha.run around
    rw [hrun]
    rcases splitFile_ends tree input dir options with ⟨cause, he⟩ | ⟨source, _, he⟩
    · rwa [he]
    · exact SplitEnds.rooted hr he
  · rwa [(run_idle around fun input dir options h => ha ⟨input, dir, options, h⟩).1]

variable {around : Surroundings} {arguments : List OsText} {debug overwrite json : Bool} {output : Option Path}
  {mode : Option MatchMode}

lemma lost_iff (hr : tree.Rooted)
    (hp : parse arguments = .ok (.run ⟨debug, .create input output overwrite mode json⟩))
    (ho : ∀ config, Configured tree config → (overwrite || config.overwrite.getD false) = false)
    (hf : tree.find? location = some (.file contents)) :
    let final := ((runProgram around arguments : Action Report) tree).2
    final.find? location ≠ some (.file contents) ↔
      ∃ dir options file, Attempts tree arguments input dir options ∧
        Replaces tree final input dir options location file ∧ .text file.contents ≠ contents ∧
        Overlooked tree dir (fileName file.declaration.name (options.extensionFor input)) := by
  intro final
  constructor
  · intro hlost
    by_cases ha : ∃ input dir options, Attempts tree arguments input dir options
    · obtain ⟨input', dir, options, ha⟩ := ha
      obtain ⟨names, filter, json', -, hrun⟩ := ha.run around
      have hfinal : final = _ := congrArg Prod.snd hrun
      obtain ⟨⟨hp', hc, _, hsettled⟩, listed, hn, hover⟩ := id ha
      rw [hp] at hp'
      cases hp'
      have hnever : options.overwrite = false := by
        rw [hsettled]
        exact ho _ hc
      obtain rfl : listed = [] := hover.resolve_left (by simp [hnever])
      rw [hfinal] at hlost ⊢
      obtain ⟨file, hreplaces⟩ := replaces_of_lost hf hlost
      refine ⟨dir, options, file, ha, hreplaces, ?_, hreplaces.overlooked hr hn hf⟩
      intro he
      rw [hreplaces.find?, he] at hlost
      exact hlost rfl
    · have hidle : final = tree := (run_idle around fun input dir options h => ha ⟨input, dir, options, h⟩).1
      rw [hidle] at hlost
      exact absurd hf hlost
  · rintro ⟨dir, options, file, _, hreplaces, hne, _⟩
    rw [hreplaces.find?]
    intro h
    cases h
    exact hne rfl

theorem files_kept_of_listed (around : Surroundings) (hr : tree.Rooted)
    (hp : parse arguments = .ok (.run ⟨debug, .create input output overwrite mode json⟩))
    (ho : ∀ config, Configured tree config → (overwrite || config.overwrite.getD false) = false)
    (hl : ∀ dir options name, Asked tree arguments input dir options →
      ¬ Overlooked tree dir (fileName name (options.extensionFor input)))
    (hf : tree.find? location = some (.file contents)) :
    ((runProgram around arguments : Action Report) tree).2.find? location = some (.file contents) := by
  by_contra hlost
  obtain ⟨dir, options, file, ha, _, _, hoverlooked⟩ := (lost_iff hr hp ho hf).mp hlost
  exact hl dir options file.declaration.name ha.asked hoverlooked

theorem files_kept_iff (around : Surroundings) (hr : tree.Rooted)
    (hp : parse arguments = .ok (.run ⟨debug, .create input output overwrite mode json⟩))
    (ho : ∀ config, Configured tree config → (overwrite || config.overwrite.getD false) = false) :
    let final := ((runProgram around arguments : Action Report) tree).2
    (∀ location contents, tree.find? location = some (.file contents) →
      final.find? location = some (.file contents)) ↔
    ∀ dir options location contents file, Attempts tree arguments input dir options →
      tree.find? location = some (.file contents) → Replaces tree final input dir options location file →
      Overlooked tree dir (fileName file.declaration.name (options.extensionFor input)) →
      .text file.contents = contents := by
  intro final
  constructor
  · intro hkept dir options location contents file ha hf hreplaces hoverlooked
    by_contra hne
    exact (lost_iff hr hp ho hf).mpr ⟨dir, options, file, ha, hreplaces, hne, hoverlooked⟩ (hkept _ _ hf)
  · intro hsame location contents hf
    by_contra hlost
    obtain ⟨dir, options, file, ha, hreplaces, hne, hoverlooked⟩ := (lost_iff hr hp ho hf).mp hlost
    exact hne (hsame _ _ _ _ _ ha hf hreplaces hoverlooked)

def linked : FileTree :=
  ⟨[(["a.ts"], .file (.text "type A = 1;")), (["kept"], .file (.text "text")), (["out"], .directory),
    (["out", "A.ts"], .link "../kept")]⟩

theorem link_lets_file_be_lost :
    linked.Rooted ∧
      parse ["create", "a.ts", "--migrate", "out"] =
        .ok (.run ⟨false, .create "a.ts" (some "out") false none false⟩) ∧
      (∀ config, Configured linked config → (false || config.overwrite.getD false) = false) ∧
      linked.find? ["kept"] = some (.file (.text "text")) ∧
      ((runProgram quiet ["create", "a.ts", "--migrate", "out"] : Action Report) linked).2.find? ["kept"] =
        some (.file (.text "export type A = 1;")) := by
  refine ⟨FileTree.rooted_of_entries (by decide), by decide +kernel, ?_, rfl, by decide +kernel⟩
  intro config hc
  cases hc with
  | absent _ => rfl
  | present hx _ _ => exact absurd hx (by decide +kernel)

def behind : FileTree :=
  ⟨[(["a.ts"], .file (.text "type A = 1;")), (["out"], .directory), (["out", "A.ts"], .file (.text "text"))]⟩

theorem way_back_lets_file_be_lost :
    behind.Rooted ∧
      parse ["create", "a.ts", "--migrate", "new/../out"] =
        .ok (.run ⟨false, .create "a.ts" (some "new/../out") false none false⟩) ∧
      (∀ config, Configured behind config → (false || config.overwrite.getD false) = false) ∧
      ∃ dir options location contents file,
        Attempts behind ["create", "a.ts", "--migrate", "new/../out"] "a.ts" dir options ∧
        behind.find? location = some (.file contents) ∧
        Replaces behind ((runProgram quiet ["create", "a.ts", "--migrate", "new/../out"] : Action Report) behind).2
          "a.ts" dir options location file ∧
        .text file.contents ≠ contents ∧
        Overlooked behind dir (fileName file.declaration.name (options.extensionFor "a.ts")) := by
  have rooted : behind.Rooted := FileTree.rooted_of_entries (by decide)
  have parsed : parse ["create", "a.ts", "--migrate", "new/../out"] =
      .ok (.run ⟨false, .create "a.ts" (some "new/../out") false none false⟩) := by decide +kernel
  have never : ∀ config, Configured behind config → (false || config.overwrite.getD false) = false := by
    intro config hc
    cases hc with
    | absent _ => rfl
    | present hx _ _ => exact absurd hx (by decide +kernel)
  have there : behind.find? ["out", "A.ts"] = some (.file (.text "text")) := by decide
  have lost : ((runProgram quiet ["create", "a.ts", "--migrate", "new/../out"] : Action Report) behind).2.find?
      ["out", "A.ts"] ≠ some (.file (.text "text")) := by decide +kernel
  refine ⟨rooted, parsed, never, ?_⟩
  by_contra hnone
  refine lost ((files_kept_iff quiet rooted parsed never).mpr ?_ _ _ there)
  intro dir options location contents file ha hf hreplaces hoverlooked
  by_contra hne
  exact hnone ⟨dir, options, location, contents, file, ha, hf, hreplaces, hne, hoverlooked⟩

end CommandLine

end DeclSplit
