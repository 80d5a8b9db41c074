import DeclSplit.Proofs.Path.Components
import DeclSplit.Proofs.Split.Plans
import Mathlib.Data.List.TakeWhile

/-! The flavour of the files that are split out of a source: they are modules or scripts as the source is, and
never hold markup. -/

namespace DeclSplit

variable {input dir : Path} {options : SplitOptions} {name extension : Text}

namespace Path

inductive OutputExtension : Text → Prop
  | plain : OutputExtension "ts"
  | moduleOnly : OutputExtension "mts"
  | scriptOnly : OutputExtension "cts"

lemma OutputExtension.dotless (h : OutputExtension extension) : '.' ∉ extension ∧ '/' ∉ extension := by
  cases h <;> decide

lemma splitExtension_append {name extension : OsText} (hn : name ≠ []) (hd : .char '.' ∉ name)
    (he : .char '.' ∉ extension) : splitExtension (name ++ .char '.' :: extension) = (name, some extension) := by
  have hdots : name ++ .char '.' :: extension ≠ ".." := by
    intro h
    obtain ⟨c, rest, rfl⟩ := List.exists_cons_of_ne_nil hn
    obtain rfl : c = .char '.' := (List.cons.inj h).1
    exact hd List.mem_cons_self
  have hpieces : Text.pieces (.char '.') (name ++ .char '.' :: extension) = [name, extension] := by
    rw [Text.pieces_append, Text.pieces_of_notMem hd, Text.pieces_of_notMem he]
    rfl
  have hstem : name.isEmpty = false := by simpa using hn
  rw [splitExtension, if_neg hdots, hpieces]
  simp [Text.joined, hstem]

lemma extensionless_dots : (splitExtension ".").2 = none ∧ (splitExtension "..").2 = none := by decide

lemma spelledExtension?_join (dir : Path) (hn : name ≠ []) (hs : '/' ∉ name) (hd : '.' ∉ name)
    (he : OutputExtension extension) :
    (dir.join (fileName name extension)).spelledExtension? = some (String.ofList extension) := by
  obtain ⟨hdot, hslash⟩ := he.dotless
  have hname : Text.os (fileName name extension) = name.os ++ .char '.' :: extension.os := Text.os_append
  have hsplit := splitExtension_append (by simpa using hn) (mt Text.mem_os.mp hd) (mt Text.mem_os.mp hdot)
  rw [← hname] at hsplit
  have hcounts : counts (fileName name extension) = true := by
    refine counts_iff.mpr ⟨by simp [fileName], ?_⟩
    intro h
    rw [h] at hsplit
    cases (congrArg Prod.snd hsplit).symm.trans extensionless_dots.1
  have hslashes : OsChar.slash ∉ Text.os (fileName name extension) := by
    simp [fileName, hs, hslash]
  have hfile : (dir.join (fileName name extension)).fileName? = some (Text.os (fileName name extension)) := by
    rw [fileName?, components_join hcounts hslashes, List.getLast?_concat, Option.filter_some, if_pos]
    refine decide_eq_true ?_
    intro h
    rw [h] at hsplit
    cases (congrArg Prod.snd hsplit).symm.trans extensionless_dots.2
  rw [spelledExtension?, extension?, hfile, Option.bind_some, hsplit, Option.bind_some, OsText.text?_os,
    Option.map_some]

lemma outputExtension_cases (input : Path) : OutputExtension input.outputExtension := by
  rw [outputExtension]
  split
  · exact .moduleOnly
  · exact .scriptOnly
  · exact .plain

lemma isModule_dialect (ht : input.dialect.typed = true) :
    input.dialect.isModule = decide (input.outputExtension ≠ "cts") := by
  revert ht
  rw [dialect, outputExtension]
  split <;> split <;> simp_all [Dialect.plain]

lemma dialect_join (dir : Path) (hn : name ≠ []) (hs : '/' ∉ name) (hd : '.' ∉ name) (he : OutputExtension extension) :
    (dir.join (fileName name extension)).dialect.typed = true ∧
      (dir.join (fileName name extension)).dialect.markup = false ∧
      (dir.join (fileName name extension)).dialect.isModule = decide (extension ≠ "cts") := by
  rw [dialect, spelledExtension?_join dir hn hs hd he]
  cases he <;> exact ⟨rfl, rfl, rfl⟩

end Path

lemma SplitOptions.extensionFor_of_dots (hdots : ∀ given ∈ options.extension, ∀ c ∈ given, c = '.') :
    options.extensionFor input = input.outputExtension := by
  have hdrop : options.extension.map (List.dropWhile (· = '.')) = none ∨
      options.extension.map (List.dropWhile (· = '.')) = some [] := by
    cases h : options.extension with
    | none => exact .inl rfl
    | some given =>
      right
      rw [Option.map_some, Option.some_inj, List.dropWhile_eq_nil_iff]
      simpa using hdots given h
  rw [extensionFor]
  rcases hdrop with h | h <;> rw [h]

theorem planned_files_keep_flavour {all : Declarations} (typed : input.dialect.typed = true)
    (dots : ∀ given ∈ options.extension, ∀ c ∈ given, c = '.') :
    (all.plan dir (options.extensionFor input) options.mode).map (·.declaration) = all.emitted ∧
    ∀ file ∈ all.plan dir (options.extensionFor input) options.mode,
      file.declaration.name ≠ [] → '/' ∉ file.declaration.name → '.' ∉ file.declaration.name →
      file.path.dialect.typed = true ∧ file.path.dialect.markup = false ∧
        (file.path.dialect.isModule = false ↔ input.dialect.isModule = false) := by
  refine ⟨Declarations.map_declaration_plan .., ?_⟩
  intro file hf hn hs hd
  rw [Declarations.path_of_mem_plan hf, SplitOptions.extensionFor_of_dots dots]
  obtain ⟨htyped, hmarkup, hmodule⟩ := Path.dialect_join dir hn hs hd (Path.outputExtension_cases input)
  refine ⟨htyped, hmarkup, ?_⟩
  rw [hmodule, Path.isModule_dialect typed]

theorem dotted_script_keeps_flavour :
    Path.dialect "src.d/lib.v2.d.cts" = ⟨true, false, false, true⟩ ∧
      let all : Declarations := ⟨[⟨"d", .typeAlias, "type d = 1", false, ⟨0, 10⟩⟩], [], []⟩
      let options : SplitOptions := ⟨false, .word, some ".."⟩
      ∃ file ∈ all.plan "../out.js/" (options.extensionFor "src.d/lib.v2.d.cts") options.mode,
        file.declaration.name = "d".toList ∧ file.path = "../out.js/d.cts" ∧ file.path.dialect.typed = true ∧
          file.path.dialect.markup = false ∧ file.path.dialect.isModule = false := by
  have hd : Path.dialect "src.d/lib.v2.d.cts" = ⟨true, false, false, true⟩ := by decide +kernel
  refine ⟨hd, ?_⟩
  intro all options
  have hdots : ∀ given ∈ options.extension, ∀ c ∈ given, c = '.' := by simp [options]
  have htyped : (Path.dialect "src.d/lib.v2.d.cts").typed = true := by rw [hd]
  obtain ⟨hfiles, hflavours⟩ := planned_files_keep_flavour htyped hdots
  have hmem : all.aliases[0] ∈ all.emitted := by decide
  rw [← hfiles] at hmem
  obtain ⟨file, hf, hname⟩ := List.mem_map.mp hmem
  have hd' : file.declaration.name = ['d'] := by rw [hname]; rfl
  obtain ⟨htyped, hmarkup, hmodule⟩ := hflavours file hf (by simp [hd']) (by simp [hd']) (by simp [hd'])
  refine ⟨file, hf, hd', ?_, htyped, hmarkup, hmodule.mpr (by rw [hd])⟩
  rw [Declarations.path_of_mem_plan hf, hd']
  decide +kernel

end DeclSplit
