import DeclSplit.Proofs.Files.Directories
import DeclSplit.Proofs.Split.Conflicts
import DeclSplit.Proofs.Split.Declared
import DeclSplit.Proofs.Split.Endings
import DeclSplit.Proofs.Split.Firsts
import DeclSplit.Proofs.Split.Landings
import DeclSplit.Proofs.Split.Plans

/-! The map of a result, and the files it tells of.  Of declarations that share a name, the first settles where
the name stands in the map, and the last what its file holds. -/

namespace DeclSplit

open FileTree (Action above mostLinks)

variable {source : Text} {input dir : Path} {options : SplitOptions} {tree made final : FileTree}
  {events : List SplitEvent} {result : SplitResult} {all : Declarations} {d : Declaration}

lemma noteFile_of_mem {place : Text → Path} {name : Text} {names : List Text} (h : name ∈ names) :
    noteFile name (place name) (names.map fun n => (n, place n)) = names.map fun n => (n, place n) := by
  induction names with
  | nil => cases h
  | cons first names ih =>
    rw [List.map_cons, noteFile]
    by_cases hf : first = name
    · rw [if_pos hf, hf]
    · rw [if_neg hf, ih ((List.mem_cons.mp h).resolve_left (Ne.symm hf))]

lemma noteFile_of_notMem {place : Text → Path} {name : Text} {names : List Text} (h : name ∉ names) :
    noteFile name (place name) (names.map fun n => (n, place n)) =
      (names ++ [name]).map fun n => (n, place n) := by
  induction names with
  | nil => rfl
  | cons first names ih =>
    rw [List.mem_cons, not_or] at h
    rw [List.map_cons, noteFile, if_neg (Ne.symm h.1), ih h.2]
    rfl

lemma noteAll_eq {place : Text → Path} {plan : List PlannedFile}
    (hp : ∀ file ∈ plan, file.path = place file.declaration.name) (names : List Text) :
    noteAll plan (names.map fun n => (n, place n)) =
      (names ++ ((plan.map (·.declaration.name)).filter (· ∉ names)).eraseDups).map fun n => (n, place n) := by
  induction plan generalizing names with
  | nil => simp [noteAll]
  | cons file plan ih =>
    have hrest : ∀ file ∈ plan, file.path = place file.declaration.name :=
      fun file hf => hp file (List.mem_cons_of_mem _ hf)
    rw [noteAll, List.foldl_cons, ← noteAll, hp file (List.mem_cons_self ..), List.map_cons]
    by_cases hm : file.declaration.name ∈ names
    · rw [noteFile_of_mem hm, ih hrest, List.filter_cons_of_neg (by simpa using hm)]
    · rw [noteFile_of_notMem hm, ih hrest, List.filter_cons_of_pos (by simpa using hm), List.eraseDups_cons,
        List.filter_filter, List.append_assoc, List.singleton_append]
      congr 4
      apply List.filter_congr
      intro name _
      rw [Bool.eq_iff_iff]
      simp [and_comm]

def placeOf (input dir : Path) (options : SplitOptions) (name : Text) : Path :=
  dir.join (fileName name (options.extensionFor input))

lemma noteAll_plan (all : Declarations) : noteAll (all.plan dir (options.extensionFor input) options.mode) [] =
    (all.emitted.map (·.name)).eraseDups.map fun name => (name, placeOf input dir options name) := by
  have hplanned : (all.plan dir (options.extensionFor input) options.mode).map (·.declaration.name) =
      all.emitted.map (·.name) := by
    rw [Declarations.plan, List.map_map]
    rfl
  have hnoted : noteAll (all.plan dir (options.extensionFor input) options.mode)
      (([] : List Text).map fun name => (name, placeOf input dir options name)) = _ :=
    noteAll_eq (fun file hf => Declarations.path_of_mem_plan hf) []
  rw [hplanned] at hnoted
  simpa using hnoted

structure Placed (final : FileTree) (input dir : Path) (options : SplitOptions) (names : List Text) : Prop where
  extension : '/' ∉ options.extensionFor input
  name : ∀ name ∈ names, '/' ∉ name
  notLink : ∀ name ∈ names, final.isLink (placeOf input dir options name) = false
  writable : ∀ name ∈ names, ∃ location, final.writable (placeOf input dir options name) = .ok location

namespace Placed

variable {names : List Text} {name other : Text} {location : Location}

lemma of_writeAll {parsed : ParsedSource} (hr : ParsedSource.read source input = .ok parsed)
    (hw : made.writeAll (parsed.plan input dir options) = .ok final) (hs : '/' ∉ options.extensionFor input)
    (hl : ∀ name ∈ parsed.declarations.emitted.map (·.name), final.isLink (placeOf input dir options name) = false) :
    Placed final input dir options (parsed.declarations.emitted.map (·.name)) where
  extension := hs
  name := by
    intro name hn hslash
    obtain ⟨d, hd, rfl⟩ := List.mem_map.mp hn
    exact ParsedSource.slash_notMem_name hr hd hslash
  notLink := hl
  writable := by
    intro name hn
    obtain ⟨d, hd, rfl⟩ := List.mem_map.mp hn
    obtain ⟨location, hl⟩ := FileTree.lands_of_writeAll hw (Declarations.mem_plan.mpr ⟨d, hd, rfl⟩)
    exact ⟨location, (FileTree.writable_writeAll hw).mpr hl⟩

lemma location_eq (h : Placed final input dir options names) (hn : name ∈ names)
    (hw : final.writable (placeOf input dir options name) = .ok location) :
    ∃ upper, FileTree.Leads final false mostLinks [] dir.components upper ∧
      location = upper ++ [(fileName name (options.extensionFor input)).os] := by
  have hs := h.extension
  have hl := h.notLink name hn
  obtain ⟨c, rest, he, hc⟩ := options.extensionFor_eq input
  rw [placeOf, he] at hw hl
  rw [he] at hs ⊢
  obtain ⟨hk, ha⟩ := fileName_counts hc name rest
  refine FileTree.writable_join_of_isLink hk ?_ ha hw hl
  have hname := h.name name hn
  simp_all [fileName]

lemma injective (h : Placed final input dir options names) (hn : name ∈ names) (ho : other ∈ names)
    (hw : final.writable (placeOf input dir options name) = .ok location)
    (hw' : final.writable (placeOf input dir options other) = .ok location) : name = other := by
  obtain ⟨upper, hu, rfl⟩ := h.location_eq hn hw
  obtain ⟨upper', hu', he⟩ := h.location_eq ho hw'
  obtain rfl := hu.unique hu'
  have hfile := List.singleton_injective (List.append_cancel_left he)
  exact List.append_cancel_right (Text.os_inj.mp hfile)

lemma resolve_of_writable {path : Path} (h : final.writable path = .ok location) :
    final.resolve path = .ok location :=
  FileTree.resolve_keep (.refl final) Bool.noConfusion (FileTree.writable_ok_iff.mp h).1

lemma not_samePlace (h : Placed final input dir options names) (hn : name ∈ names) (ho : other ∈ names)
    (hne : name ≠ other) :
    ¬ final.SamePlace (placeOf input dir options name) (placeOf input dir options other) := by
  rintro ⟨location, hr, hr'⟩
  obtain ⟨spot, hw⟩ := h.writable name hn
  obtain ⟨spot', hw'⟩ := h.writable other ho
  obtain rfl := Except.ok.inj (hr.symm.trans (resolve_of_writable hw))
  obtain rfl := Except.ok.inj (hr'.symm.trans (resolve_of_writable hw'))
  exact hne (h.injective hn ho hw hw')

lemma readText (h : Placed final input dir options (all.emitted.map (·.name)))
    (hw : made.writeAll (all.plan dir (options.extensionFor input) options.mode) = .ok final)
    (hd : all.lastNamed name = some d) :
    final.readText (placeOf input dir options name) = .ok (d.render all options.mode).contents := by
  obtain ⟨hmem, rfl⟩ := Declarations.lastNamed_mem hd
  obtain ⟨location, hl⟩ := h.writable d.name (List.mem_map_of_mem hmem)
  refine FileTree.readText_ok_iff.mpr ⟨location, resolve_of_writable hl, ?_⟩
  have hlast : made.lastTo location (all.plan dir (options.extensionFor input) options.mode) =
      some (all.planFile dir (options.extensionFor input) options.mode d) := by
    rw [← Option.map_some, ← hd, ← Declarations.getLast?_plan, FileTree.lastTo]
    -- The files that go to the location are those of the name, so the last of either is the same.
    congr 1
    apply List.filter_congr
    intro file hf
    obtain ⟨other, ho, rfl⟩ := Declarations.mem_plan.mp hf
    refine decide_eq_decide.mpr ⟨?_, ?_⟩
    · intro hother
      have hother' := (FileTree.writable_writeAll hw).mpr hother
      exact h.injective (List.mem_map_of_mem ho) (List.mem_map_of_mem hmem) hother' hl
    · intro hname
      refine (FileTree.writable_writeAll hw).mp ?_
      rw [← hl, placeOf, ← hname]
      rfl
  rw [FileTree.find?_writeAll hw, hlast]
  rfl

end Placed

theorem result_tells_last_writes
    (ran : SplitRun tree input (some dir) options source (⟨events, .ok result⟩, final)) :
    ∃ parsed, ParsedSource.read source input = .ok parsed ∧
      let all := parsed.declarations
      let names := all.emitted.map (·.name)
      let place := placeOf input dir options
      result.count = all.size ∧
      result.files = names.eraseDups.map (fun name => (name, place name)) ∧
      result.files.length ≤ result.count ∧
      (result.files.length = result.count ↔ names.Nodup) ∧
      ('/' ∉ options.extensionFor input → (∀ name ∈ names, final.isLink (place name) = false) →
        (∀ name ∈ names, ∀ other ∈ names, name ≠ other → ¬ final.SamePlace (place name) (place other)) ∧
        ∀ name ∈ names, ∃ d, all.lastNamed name = some d ∧
          final.readText (place name) = .ok (d.render all options.mode).contents) := by
  have ends := splitSource_ends tree source input dir options
  rw [ran.eq_splitSource] at ends
  obtain ⟨parsed, made, hr, hm, hw⟩ := ends.whole rfl
  have written : made.writeAll (parsed.plan input dir options) = .ok final := by simpa using hw.written
  have mapped : result = _ := Except.ok.inj (hw.done rfl)
  refine ⟨parsed, hr, ?_⟩
  intro all names place
  have hcount : result.count = all.size := by rw [mapped]
  have hlength : names.length = all.size := by rw [List.length_map, Declarations.length_emitted]
  have hfiles : result.files = names.eraseDups.map fun name => (name, place name) := by
    rw [mapped]
    exact noteAll_plan all
  refine ⟨hcount, hfiles, ?_, ?_, ?_⟩
  · rw [hfiles, hcount, ← hlength, List.length_map]
    exact (eraseDups_sublist names).length_le
  · rw [hfiles, hcount, ← hlength, List.length_map]
    exact length_eraseDups_eq_iff
  · intro hs hl
    have placed : Placed final input dir options names := .of_writeAll hr written hs hl
    refine ⟨fun name hn other ho hne => placed.not_samePlace hn ho hne, ?_⟩
    intro name hn
    obtain ⟨d, hd, rfl⟩ := List.mem_map.mp hn
    obtain ⟨last, hlast⟩ := Declarations.lastNamed_isSome hd
    exact ⟨last, hlast, placed.readText written hlast⟩

def namesakesText : Text := "interface A \x7b a: B \x7d type A = 1; enum A \x7b \x7d type B = A;"

def namesakes : Declarations where
  aliases := [⟨"A", .typeAlias, "type A = 1;", false, ⟨21, 32⟩⟩, ⟨"B", .typeAlias, "type B = A;", false, ⟨44, 55⟩⟩]
  enums := [⟨"A", .enum, "enum A \x7b \x7d", false, ⟨33, 43⟩⟩]
  interfaces := [⟨"A", .interface, "interface A \x7b a: B \x7d", false, ⟨0, 20⟩⟩]

theorem namesakes_tell_last_write :
    ∃ events result final,
      SplitRun ⟨[]⟩ "a.ts" (some "out") {} namesakesText (⟨events, .ok result⟩, final) ∧
      result.count = 4 ∧ result.files = [⟨"A", "out/A.ts"⟩, ⟨"B", "out/B.ts"⟩] ∧
      ¬ final.SamePlace "out/A.ts" "out/B.ts" ∧
      final.readText "out/A.ts" = .ok "import \x7b B \x7d from './B';\nexport interface A \x7b a: B \x7d" := by
  have ran : SplitRun ⟨[]⟩ "a.ts" (some "out") {} namesakesText _ := .ofText
  have read : ParsedSource.read namesakesText "a.ts" = .ok ⟨namesakes, []⟩ := by decide +kernel
  have ended : ((splitSource namesakesText "a.ts" (some "out") {} : Action _) ⟨[]⟩).1.result.isOk = true := by
    decide +kernel
  have links : ∀ name ∈ namesakes.emitted.map (·.name),
      ((splitSource namesakesText "a.ts" (some "out") {} : Action _) ⟨[]⟩).2.isLink (placeOf "a.ts" "out" {} name) =
        false := by decide +kernel
  rcases hrun : (splitSource namesakesText "a.ts" (some "out") {} : Action _) ⟨[]⟩ with ⟨⟨events, e | result⟩, final⟩
  · rw [hrun] at ended
    cases ended
  · rw [hrun] at ran links
    obtain ⟨parsed, hr, hcount, hfiles, -, -, hplaces⟩ := result_tells_last_writes ran
    obtain rfl := Except.ok.inj (read.symm.trans hr)
    obtain ⟨hapart, hholds⟩ := hplaces (by decide +kernel) links
    have hA : "A".toList ∈ namesakes.emitted.map (·.name) := by decide +kernel
    have hB : "B".toList ∈ namesakes.emitted.map (·.name) := by decide +kernel
    obtain ⟨last, hlast, htext⟩ := hholds _ hA
    have hinterface : namesakes.lastNamed "A" =
        some ⟨"A", .interface, "interface A \x7b a: B \x7d", false, ⟨0, 20⟩⟩ := by decide +kernel
    obtain rfl := Option.some.inj (hinterface.symm.trans hlast)
    exact ⟨events, result, final, ran, hcount, hfiles, hapart _ hA _ hB (by decide), htext⟩

end DeclSplit
