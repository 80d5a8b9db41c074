import DeclSplit.Proofs.CommandLine.Attempts
import DeclSplit.Proofs.Split.ResultMap

/-! What a list of declarations foretells about a split of the same file. -/

namespace DeclSplit

open FileTree (Action)

variable {source : Text} {input dir : Path} {options : SplitOptions} {tree kept final : FileTree}
  {events told : List SplitEvent} {result : SplitResult} {all : Declarations} {d : Declaration}

structure HoldsSpan (final : FileTree) (path : Path) (source : Text) (d : Declaration) : Prop where
  within : d.span.start ≤ d.span.stop ∧ d.span.stop ≤ source.bytes.length
  holds : ∃ imports body, (d.kind = .enum → imports = []) ∧
    final.readText path = .ok (importBlock imports ++ (if d.isExported then [] else "export ") ++ body) ∧
    body.bytes = (source.bytes.take d.span.stop).drop d.span.start

lemma Declaration.contents_render (d : Declaration) (all : Declarations) (mode : MatchMode) :
    (d.render all mode).contents =
      importBlock (d.imports all mode) ++ (if d.isExported then [] else "export ") ++ d.rawText := by
  rw [render, body, ensureExported]
  cases d.isExported <;> simp

lemma holdsSpan_of_readText {parsed : ParsedSource} {path : Path} {mode : MatchMode}
    (hr : ParsedSource.read source input = .ok parsed) (hd : d ∈ parsed.declarations.emitted)
    (ht : final.readText path = .ok (d.render parsed.declarations mode).contents) :
    HoldsSpan final path source d := by
  obtain ⟨hoccurs, hstop⟩ := ParsedSource.occurs_rawText hr hd
  have hbytes := Text.bytes_of_occurs hoccurs
  rw [hstop] at hbytes
  refine ⟨⟨by omega, ?_⟩, d.imports parsed.declarations mode, d.rawText, ?_, ?_, hbytes⟩
  · obtain ⟨before, after, rfl, hstart⟩ := hoccurs
    simp only [Text.length_bytes, Text.byteLength_append]
    omega
  · intro hk
    rw [Declaration.imports, hk]
  · rw [ht, Declaration.contents_render]

namespace CommandLine

variable {debug debug' json json' overwrite : Bool} {mode : Option MatchMode} {replaced : List Text}

lemma read_of_listed
    (h : (Invocation.run ⟨debug, .list input json⟩ : Action _) tree = (.listed json ⟨told, .ok all⟩, kept)) :
    ∃ source parsed, tree.readText input = .ok source ∧ ParsedSource.read source input = .ok parsed ∧
      parsed.declarations = all := by
  rcases run_cases tree ⟨debug, .list input json⟩ with ⟨cause, hbad⟩ | ⟨config, -, hrun⟩
  · rw [hbad] at h
    cases h
  rw [hrun] at h
  cases hs : tree.readText input with
  | error cause =>
    simp only [Command.run, FileTree.run_bind, load_error hs] at h
    cases h
  | ok source =>
    simp only [Command.run, FileTree.run_bind, load_text hs, FileTree.run_pure] at h
    obtain ⟨-, hfound⟩ := RunResult.listed.inj (Prod.mk.inj h).1
    obtain ⟨parsed, hr, -, hall, -⟩ := found_of_ofSource hfound
    exact ⟨source, parsed, rfl, hr, hall⟩

lemma splitFile_of_created
    (h : (Invocation.run ⟨debug, .create input (some dir) overwrite mode json⟩ : Action _) tree =
      (.created json (.tried replaced ⟨events, .ok result⟩), final)) :
    ∃ config, Configured tree config ∧
      (splitFile input (some dir) ⟨overwrite || config.overwrite.getD false, (mode.or config.mode).getD default,
        config.extension⟩ : Action _) tree = (⟨events, .ok result⟩, final) := by
  rcases run_cases tree ⟨debug, .create input (some dir) overwrite mode json⟩ with
    ⟨cause, hbad⟩ | ⟨config, hc, hrun⟩
  · rw [hbad] at h
    cases h
  refine ⟨config, hc, ?_⟩
  rw [hrun] at h
  simp only [Command.run, FileTree.run_bind, FileTree.run_pure, Option.some_or] at h
  obtain ⟨hcreated, hfinal⟩ := Prod.mk.inj h
  exact splitFile_of_tried (Prod.ext (RunResult.created.inj hcreated).2 hfinal)

theorem list_foretells_create
    (listed : (Invocation.run ⟨debug, .list input json⟩ : Action _) tree = (.listed json ⟨told, .ok all⟩, kept))
    (created : (Invocation.run ⟨debug', .create input (some dir) overwrite mode json'⟩ : Action _) tree =
      (.created json' (.tried replaced ⟨events, .ok result⟩), final)) :
    result.count = all.emitted.length ∧
    result.files.map Prod.fst = (all.emitted.map (·.name)).eraseDups ∧
    ∃ source config, tree.readText input = .ok source ∧ Configured tree config ∧
      let options : SplitOptions := ⟨overwrite || config.overwrite.getD false,
        (mode.or config.mode).getD default, config.extension⟩
      '/' ∉ options.extensionFor input →
      (∀ d ∈ all.emitted, final.isLink (placeOf input dir options d.name) = false) →
      ∀ name d, all.lastNamed name = some d →
        HoldsSpan final (dir.join (fileName name (options.extensionFor input))) source d := by
  obtain ⟨source, parsed, hs, hr, rfl⟩ := read_of_listed listed
  obtain ⟨config, hc, hsplit⟩ := splitFile_of_created created
  rw [splitFile_text hs] at hsplit
  have ends := splitSource_ends tree source input dir
    ⟨overwrite || config.overwrite.getD false, (mode.or config.mode).getD default, config.extension⟩
  rw [hsplit] at ends
  obtain ⟨again, made, hread, -, hw⟩ := ends.whole rfl
  obtain rfl := Except.ok.inj (hr.symm.trans hread)
  have mapped : result = _ := Except.ok.inj (hw.done rfl)
  refine ⟨?_, ?_, source, config, hs, hc, ?_⟩
  · rw [mapped, Declarations.length_emitted]
  · rw [mapped]
    change (noteAll (parsed.declarations.plan _ _ _) []).map Prod.fst = _
    rw [noteAll_plan, List.map_map]
    exact List.map_id _
  · intro options hext hlinks name d hd
    have written : made.writeAll (parsed.plan input dir options) = .ok final := by
      simpa only [List.take_length] using hw.written
    have placed : Placed final input dir options (parsed.declarations.emitted.map (·.name)) :=
      .of_writeAll hr written hext (by simpa using hlinks)
    exact holdsSpan_of_readText hr (Declarations.lastNamed_mem hd).1 (placed.readText written hd)

def accentedText : Text := "// é\nexport interface A \x7b b: B \x7d type B = 1; enum A \x7b \x7d"

def accented : FileTree := ⟨[(["a.ts"], .file (.text accentedText))]⟩

def accentedFace : Declaration := ⟨"A", .interface, "export interface A \x7b b: B \x7d", true, ⟨6, 33⟩⟩

def accentedAll : Declarations where
  aliases := [⟨"B", .typeAlias, "type B = 1;", false, ⟨34, 45⟩⟩]
  enums := [⟨"A", .enum, "enum A \x7b \x7d", false, ⟨46, 56⟩⟩]
  interfaces := [accentedFace]

theorem accented_list_foretells_create :
    ∃ told events result final,
      (Invocation.run ⟨false, .list "a.ts" true⟩ : Action _) accented =
        (.listed true ⟨told, .ok accentedAll⟩, accented) ∧
      (Invocation.run ⟨false, .create "a.ts" (some "out") false none false⟩ : Action _) accented =
        (.created false (.tried [] ⟨events, .ok result⟩), final) ∧
      result.count = 3 ∧ result.files.map Prod.fst = ["A", "B"] ∧
      HoldsSpan final "out/A.ts" accentedText accentedFace := by
  have bare : Configured accented {} := .absent (by decide +kernel)
  have text : accented.readText "a.ts" = .ok accentedText := by decide +kernel
  have read : ParsedSource.read accentedText "a.ts" = .ok ⟨accentedAll, []⟩ := by decide +kernel
  have free : accented.inTheWay "out" (SplitOptions.extensionFor {} "a.ts") = .ok [] := by decide +kernel
  have ended : ((splitFile "a.ts" (some "out") {} : Action _) accented).1.result.isOk = true := by decide +kernel
  have links : ∀ d ∈ accentedAll.emitted, ((splitFile "a.ts" (some "out") {} : Action _) accented).2.isLink
      (placeOf "a.ts" "out" {} d.name) = false := by decide +kernel
  have listed : (Invocation.run ⟨false, .list "a.ts" true⟩ : Action _) accented =
      (.listed true ⟨[.found 3], .ok accentedAll⟩, accented) := by
    rw [run_configured bare]
    simp only [Command.run, FileTree.run_bind, load_text text, ofSource_found read (by decide)]
    rfl
  rcases hrun : (splitFile "a.ts" (some "out") {} : Action _) accented with ⟨⟨events, e | result⟩, final⟩
  · rw [hrun] at ended
    cases ended
  · rw [hrun] at links
    have tried : (splitInto "a.ts" (some "out") {} : Action _) accented = (.tried [] ⟨events, .ok result⟩, final) := by
      rw [run_splitInto free (.inr rfl), hrun]
    have created : (Invocation.run ⟨false, .create "a.ts" (some "out") false none false⟩ : Action _) accented =
        (.created false (.tried [] ⟨events, .ok result⟩), final) := by
      rw [run_configured bare]
      exact run_create rfl tried
    obtain ⟨hcount, hnames, source, config, hs, hc, hholds⟩ := list_foretells_create listed created
    obtain rfl := bare.unique hc
    obtain rfl := Except.ok.inj (hs.symm.trans text)
    exact ⟨_, events, result, final, listed, created, hcount, hnames,
      hholds (by decide +kernel) links "A" accentedFace (by decide +kernel)⟩

end CommandLine

end DeclSplit
