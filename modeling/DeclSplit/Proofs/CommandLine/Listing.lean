import DeclSplit.Proofs.CommandLine.Attempts
import DeclSplit.Proofs.Files.Remaking
import DeclSplit.Proofs.Split.ResultMap

/-! Files in the way after a split: all that it wrote is listed, so that a second split stops at the list. -/

namespace DeclSplit

open FileTree (Action)

variable {source : Text} {input dir : Path} {options : SplitOptions} {tree made final : FileTree}
  {events : List SplitEvent} {result : SplitResult} {d : Declaration} {names : List Text}

lemma Placed.find? (placed : Placed final input dir options names) {all : Declarations}
    (hw : made.writeAll (all.plan dir (options.extensionFor input) options.mode) = .ok final)
    (hd : d ∈ all.emitted) (hn : d.name ∈ names) {upper : Location} (hu : final.resolve dir = .ok upper) :
    ∃ contents, final.find? (upper ++ [(fileName d.name (options.extensionFor input)).os]) = some (.file contents) := by
  obtain ⟨location, hl⟩ := placed.writable d.name hn
  obtain ⟨upper', hu', rfl⟩ := placed.location_eq hn hl
  obtain rfl := hu'.unique (FileTree.leads_components hu)
  have hplanned : all.planFile dir (options.extensionFor input) options.mode d ∈
      all.plan dir (options.extensionFor input) options.mode := Declarations.mem_plan.mpr ⟨d, hd, rfl⟩
  obtain ⟨last, hlast⟩ := FileTree.lastTo_isSome hplanned ((FileTree.writable_writeAll hw).mp hl)
  refine ⟨.text last.contents, ?_⟩
  rw [FileTree.find?_writeAll hw, hlast]
  rfl

lemma extensionSuffix_suffix (options : SplitOptions) (input : Path) (name : Text) :
    extensionSuffix (options.extensionFor input) <:+ fileName name (options.extensionFor input) := by
  obtain ⟨c, rest, he, hc⟩ := options.extensionFor_eq input
  rw [he, extensionSuffix_eq hc]
  exact List.suffix_append _ _

lemma SplitEnds.listed (ends : SplitEnds tree source input dir options (⟨events, .ok result⟩, final))
    (hn : dir.os ≠ []) (hs : '/' ∉ options.extensionFor input) :
    ∃ parsed, ParsedSource.read source input = .ok parsed ∧ parsed.declarations.emitted ≠ [] ∧
      ((∀ d ∈ parsed.declarations.emitted, final.isLink (placeOf input dir options d.name) = false) →
        ∃ names, final.inTheWay dir (options.extensionFor input) = .ok names ∧
          ∀ d ∈ parsed.declarations.emitted, fileName d.name (options.extensionFor input) ∈ names) := by
  obtain ⟨parsed, made, hr, hm, hw⟩ := ends.whole rfl
  have written : made.writeAll (parsed.plan input dir options) = .ok final := by simpa using hw.written
  refine ⟨parsed, hr, ?_, ?_⟩
  · obtain ⟨found, hf, hsome⟩ := ends.found rfl
    cases hr.symm.trans hf
    exact hsome
  intro hlinks
  have placed : Placed final input dir options (parsed.declarations.emitted.map (·.name)) :=
    .of_writeAll hr written hs (by simpa using hlinks)
  have there : final.isDirectory dir = true :=
    FileTree.isDirectory_keep (FileTree.keepsWays_writeAll written) (FileTree.isDirectory_of_makeDirectories hm hn)
  obtain ⟨names, hnames⟩ := FileTree.inTheWay_of_isDirectory there (options.extensionFor input)
  obtain ⟨upper, hu, -⟩ := FileTree.isDirectory_iff.mp there
  refine ⟨names, hnames, ?_⟩
  intro d hd
  obtain ⟨contents, hf⟩ := placed.find? written hd (List.mem_map_of_mem hd) hu
  have hlisted := FileTree.mem_inTheWay hnames (FileTree.exists_of_isDirectory there) hu hf
  rw [OsText.shown_os] at hlisted
  exact hlisted (extensionSuffix_suffix options input d.name)

namespace CommandLine

theorem created_files_stop_next_split (distinct : tree.Distinct) (dir : Path) :
    (∀ extension names, tree.inTheWay dir extension = .ok names → tree.Lists dir extension names ∧
      (tree.NamedInText dir → tree.ListsTexts dir extension names)) ∧
    (tree.exists_ dir = false → ∀ extension, tree.inTheWay dir extension = .ok []) ∧
    ∀ input options replaced events result final,
      (splitInto input (some dir) options : Action _) tree = (.tried replaced ⟨events, .ok result⟩, final) →
      dir.os ≠ [] → '/' ∉ options.extensionFor input →
      ∃ source parsed, tree.readText input = .ok source ∧ ParsedSource.read source input = .ok parsed ∧
        ((∀ d ∈ parsed.declarations.emitted, final.isLink (placeOf input dir options d.name) = false) →
          ∃ names, final.inTheWay dir (options.extensionFor input) = .ok names ∧
            final.Lists dir (options.extensionFor input) names ∧
            (final.NamedInText dir → final.ListsTexts dir (options.extensionFor input) names) ∧
            (∀ d ∈ parsed.declarations.emitted, fileName d.name (options.extensionFor input) ∈ names) ∧
            ∀ again : SplitOptions, again.overwrite = false →
              again.extensionFor input = options.extensionFor input →
              let run := (splitInto input (some dir) again : Action _) final
              run = (.inTheWay names, final) ∧
              ∀ around filter json, (run.1.report around filter json).exitCode = 0 ∧
                ∀ d ∈ parsed.declarations.emitted,
                  bullet (fileName d.name (options.extensionFor input)) ∈
                    (run.1.report around filter json).output) := by
  refine ⟨fun _ _ hn => ⟨FileTree.lists_inTheWay distinct hn, (FileTree.lists_inTheWay distinct hn).texts⟩,
    FileTree.inTheWay_absent, ?_⟩
  intro input options replaced events result final htried hn hs
  have hsplit := splitFile_of_tried htried
  rcases splitFile_ends tree input dir options with ⟨cause, he⟩ | ⟨source, hsource, ends⟩
  · rw [hsplit] at he
    cases he
  rw [hsplit] at ends
  obtain ⟨parsed, hr, hsome, hlisted⟩ := ends.listed hn hs
  refine ⟨source, parsed, hsource, hr, ?_⟩
  intro hlinks
  obtain ⟨names, hnames, hmem⟩ := hlisted hlinks
  have later : final.Distinct :=
    ends.keep (fun _ _ _ _ h hm => h.makeDirectory hm) (fun _ _ _ _ _ _ h hw => h.write hw) distinct
  have hlists := FileTree.lists_inTheWay later hnames
  refine ⟨names, hnames, hlists, hlists.texts, hmem, ?_⟩
  intro again hnever hext run
  have hne : names ≠ [] := by
    obtain ⟨d, hd⟩ := List.exists_mem_of_ne_nil _ hsome
    exact List.ne_nil_of_mem (hmem d hd)
  have hrun : run = (.inTheWay names, final) := run_splitInto_inTheWay (by rwa [hext]) hnever hne
  refine ⟨hrun, ?_⟩
  intro around filter json
  rw [hrun]
  exact ⟨rfl, fun d hd => List.mem_cons_of_mem _ (List.mem_map_of_mem (hmem d hd))⟩

def crowded : FileTree :=
  ⟨[(["a.ts"], .file (.text "type A = B; type B = 1;")), (["out"], .directory),
    (["out", "é.d.ts"], .file (.text "")), (["out", "B.d.ts"], .file (.text "")),
    (["out", "C.d.ts"], .directory)]⟩

def typings : SplitOptions := { overwrite := true, extension := some ".d.ts".toList }

theorem crowded_split_stops_next : crowded.Distinct ∧
    ∃ events result final, (splitInto "a.ts" (some "out") typings : Action _) crowded =
        (.tried ["B.d.ts", "é.d.ts"] ⟨events, .ok result⟩, final) ∧
      ∃ names, final.Lists "out" "d.ts" names ∧ ("A.d.ts" : Text) ∈ names ∧
        (splitInto "a.ts" (some "out") { typings with overwrite := false } : Action _) final =
          (.inTheWay names, final) := by
  have distinct : crowded.Distinct := by decide +kernel
  have read : ParsedSource.read "type A = B; type B = 1;" "a.ts" = .ok ⟨occupants, []⟩ := by decide +kernel
  have text : crowded.readText "a.ts" = .ok "type A = B; type B = 1;" := by decide +kernel
  have free : crowded.inTheWay "out" (typings.extensionFor "a.ts") = .ok ["B.d.ts", "é.d.ts"] := by decide +kernel
  have ended : ((splitFile "a.ts" (some "out") typings : Action _) crowded).1.result.isOk = true := by decide +kernel
  have links : ∀ d ∈ occupants.emitted, ((splitFile "a.ts" (some "out") typings : Action _) crowded).2.isLink
      (placeOf "a.ts" "out" typings d.name) = false := by decide +kernel
  have tried : (splitInto "a.ts" (some "out") typings : Action _) crowded = _ := run_splitInto free (.inl rfl)
  rcases hrun : (splitFile "a.ts" (some "out") typings : Action _) crowded with ⟨⟨events, e | result⟩, final⟩
  · rw [hrun] at ended
    cases ended
  · rw [hrun] at tried links
    obtain ⟨source, parsed, hs, hr, hlisted⟩ :=
      (created_files_stop_next_split distinct "out").2.2 _ _ _ _ _ _ tried (by decide) (by decide +kernel)
    cases hs.symm.trans text
    cases hr.symm.trans read
    obtain ⟨names, -, hlists, -, hmem, hagain⟩ := hlisted links
    have hA : "A.d.ts".toList ∈ names :=
      hmem ⟨"A", .typeAlias, "type A = B;", false, ⟨0, 11⟩⟩ (by decide +kernel)
    exact ⟨distinct, events, result, final, tried, names, hlists, hA,
      (hagain { typings with overwrite := false } rfl rfl).1⟩

def visited : FileTree := ⟨[(["out"], .directory), (["out", "A.ts"], .file (.text ""))]⟩

def dotted (n : ℕ) : Path := ⟨Text.os "out" ++ (List.replicate n (Text.os "/.")).flatten⟩

lemma pieces_dotted {name : OsText} (hs : .slash ∉ name) (n : ℕ) :
    Text.pieces .slash (name ++ (List.replicate n (Text.os "/.")).flatten) = name :: List.replicate n (Text.os ".") := by
  induction n generalizing name with
  | zero => simp [Text.pieces_of_notMem hs]
  | succ n ih =>
    have hdots : (List.replicate (n + 1) (Text.os "/.")).flatten =
        .slash :: (Text.os "." ++ (List.replicate n (Text.os "/.")).flatten) := rfl
    rw [hdots, Text.pieces_append, Text.pieces_of_notMem hs, ih (by decide)]
    rfl

lemma components_dotted (n : ℕ) : (dotted n).components = Path.components "out" := by
  rw [Path.components_eq, dotted, pieces_dotted (by decide), List.filter_cons_of_pos (by decide)]
  simp [Path.counts]
  rfl

lemma byteLength_dotted (n : ℕ) : (dotted n).os.byteLength = 3 + 2 * n := by
  have hdots : OsText.byteLength (List.replicate n (Text.os "/.")).flatten = 2 * n := by
    induction n with
    | zero => rfl
    | succ n ih =>
      have hsucc : (List.replicate (n + 1) (Text.os "/.")).flatten =
          Text.os "/." ++ (List.replicate n (Text.os "/.")).flatten := rfl
      rw [hsucc, OsText.byteLength_append, ih, show OsText.byteLength (Text.os "/.") = 2 from rfl]
      omega
  rw [dotted, OsText.byteLength_append, hdots]
  rfl

lemma exists_of_too_long {tree : FileTree} {path : Path} (h : FileTree.longestPath < path.os.byteLength) :
    tree.exists_ path = false := by
  have hcheck : ∀ u, FileTree.checkPath path ≠ .ok u := by
    rintro ⟨⟩ hc
    exact absurd (FileTree.checkPath_ok_iff.mp hc).2.2 (Nat.not_le.mpr h)
  rw [FileTree.exists_, FileTree.entryAt, FileTree.resolve]
  cases hc : FileTree.checkPath path with
  | error e => rfl
  | ok u => exact absurd hc (hcheck u)

def strays : FileTree :=
  ⟨[(["out"], .directory), (["out", .stray 0xFE :: Text.os ".ts"], .file (.text "")),
    (["out", .stray 0xFF :: Text.os ".ts"], .file (.text ""))]⟩

theorem listing_misses_directory_and_names :
    ((dotted 2047).components = Path.components "out" ∧ visited.find? ["out"] = some .directory ∧
      visited.inTheWay "out" "ts" = .ok ["A.ts"] ∧ visited.inTheWay (dotted 2047) "ts" = .ok []) ∧
    strays.inTheWay "out" "ts" = .ok ["\uFFFD.ts", "\uFFFD.ts"] ∧ ¬ strays.Holds "out" (Text.os "\uFFFD.ts") := by
  refine ⟨⟨components_dotted _, by decide +kernel, by decide +kernel, FileTree.inTheWay_absent ?_ _⟩,
    by decide +kernel, ?_⟩
  · apply exists_of_too_long
    rw [byteLength_dotted]
    decide
  · rintro ⟨upper, contents, hr, -, hf⟩
    have hout : strays.resolve "out" = .ok ["out"] := by decide +kernel
    cases hr.symm.trans hout
    have hnone : strays.find? [Text.os "out", Text.os "\uFFFD.ts"] = none := by decide +kernel
    cases hf.symm.trans hnone

end CommandLine

end DeclSplit
