import DeclSplit.Proofs.Split.Plans
import Mathlib.Data.List.Infix
import Mathlib.Data.List.TakeWhile

/-! What the contents of a file tell of what they were rendered from: the imports come first, a line each, and
what follows them is the declaration.  `readImports` takes the two apart again. -/

namespace DeclSplit

variable {d : Declaration} {all : Declarations} {mark : Char} {name text line body : Text} {names : List Text}

def Text.cutBehind (mark : Char) : (count : ℕ) → Text → Text × Text
  | 0, text => ([], text)
  | _ + 1, [] => ([], [])
  | count + 1, c :: rest =>
    let parts := cutBehind mark (if c = mark then count else count + 1) rest
    (c :: parts.1, parts.2)

lemma cutBehind_append (h : mark ∉ line) (count : ℕ) (rest : Text) :
    Text.cutBehind mark (count + 1) (line ++ mark :: rest) =
      (line ++ mark :: (Text.cutBehind mark count rest).1, (Text.cutBehind mark count rest).2) := by
  induction line with
  | nil => simp [Text.cutBehind]
  | cons c line ih =>
    obtain ⟨hc, hline⟩ := List.ne_and_not_mem_of_not_mem_cons h
    simp [Text.cutBehind, hc.symm, ih hline]

lemma importLine_endsLine (h : '\n' ∉ name) : ∃ line, importLine name = line ++ ['\n'] ∧ '\n' ∉ line := by
  refine ⟨"import \x7b ".toList ++ (name ++ (" \x7d from './".toList ++ (name ++ "';".toList))), ?_, ?_⟩
  · rw [importLine_eq]
    simp only [List.append_assoc]
    rfl
  · simp only [List.mem_append, not_or]
    exact ⟨by decide, h, by decide, h, by decide⟩

lemma cutBehind_importBlock (h : ∀ name ∈ names, '\n' ∉ name) (body : Text) :
    Text.cutBehind '\n' names.length (importBlock names ++ body) = (importBlock names, body) := by
  induction names with
  | nil => simp [importBlock, Text.cutBehind]
  | cons name names ih =>
    obtain ⟨line, hline, hends⟩ := importLine_endsLine (h name List.mem_cons_self)
    have hrest := ih fun other ho => h other (List.mem_cons_of_mem _ ho)
    have hblock : importBlock (name :: names) = line ++ '\n' :: importBlock names := by
      rw [importBlock_cons, hline, List.append_assoc, List.singleton_append]
    rw [hblock, List.append_assoc, List.cons_append, List.length_cons, cutBehind_append hends, hrest]

lemma drop_importLine_lt (h : (importLine name).isPrefixOf text = true) :
    (text.drop (importLine name).length).length < text.length := by
  have hle := (List.isPrefixOf_iff_prefix.mp h).length_le
  have hpos := List.length_pos_iff.mpr (importLine_ne_nil name)
  rw [List.length_drop]
  omega

def importedName (text : Text) : Text := (text.drop "import \x7b ".length).takeWhile (· ≠ ' ')

def readImports (text : Text) : List Text × Text :=
  if _ : (importLine (importedName text)).isPrefixOf text = true then
    let others := readImports (text.drop (importLine (importedName text)).length)
    (importedName text :: others.1, others.2)
  else ([], text)
termination_by text.length
decreasing_by exact drop_importLine_lt ‹_›

lemma importedName_importLine (h : ' ' ∉ name) (rest : Text) : importedName (importLine name ++ rest) = name := by
  have hname : ∀ c ∈ name, decide (c ≠ ' ') = true := by
    intro c hc
    rw [decide_eq_true_eq]
    rintro rfl
    exact h hc
  rw [importedName, importLine_eq, List.append_assoc, List.drop_left' (by decide), List.append_assoc,
    List.takeWhile_append_of_pos hname]
  simp

lemma readImports_line (h : ' ' ∉ name) (rest : Text) : readImports (importLine name ++ rest) =
    (name :: (readImports rest).1, (readImports rest).2) := by
  have hprefix : (importLine name).isPrefixOf (importLine name ++ rest) = true := by
    rw [List.isPrefixOf_iff_prefix]
    exact List.prefix_append _ _
  rw [readImports, importedName_importLine h, dif_pos hprefix, List.drop_left]

lemma readImports_of_head (h : body.head? = some 'e') : readImports body = ([], body) := by
  rw [readImports, dif_neg]
  rw [List.isPrefixOf_iff_prefix]
  rintro ⟨rest, hrest⟩
  rw [← hrest, importLine_eq] at h
  simp at h

lemma readImports_importBlock (h : ∀ name ∈ names, ' ' ∉ name) (hb : body.head? = some 'e') :
    readImports (importBlock names ++ body) = (names, body) := by
  induction names with
  | nil => exact readImports_of_head hb
  | cons name names ih =>
    have hrest := ih fun other ho => h other (List.mem_cons_of_mem _ ho)
    rw [importBlock_cons, List.append_assoc, readImports_line (h name List.mem_cons_self), hrest]

def Declarations.Unbroken (all : Declarations) : Prop := ∀ d ∈ all.emitted, '\n' ∉ d.name ∧ ' ' ∉ d.name

def Declaration.OpensExported (d : Declaration) : Prop := d.isExported = true → "export".toList <+: d.rawText

lemma Declaration.OpensExported.head? (h : d.OpensExported) : d.body.head? = some 'e' := by
  rw [body, ensureExported]
  split
  · obtain ⟨rest, hrest⟩ := h ‹_›
    rw [← hrest]
    rfl
  · rfl

lemma Declarations.Unbroken.imports (h : all.Unbroken) {mode : MatchMode} (hn : name ∈ d.imports all mode) :
    '\n' ∉ name ∧ ' ' ∉ name := by
  obtain ⟨-, other, ho, rfl⟩ := mem_imports hn
  exact h other ho

lemma readImports_render (hu : all.Unbroken) (he : d.OpensExported) (mode : MatchMode) :
    readImports (d.render all mode).contents = (d.imports all mode, d.body) :=
  readImports_importBlock (fun _ hn => (hu.imports hn).2) he.head?

theorem rendering_decodable (hu : all.Unbroken) (d : Declaration) (mode : MatchMode) :
    let names := if d.kind = .enum then [] else all.dependencies d mode
    let body := ensureExported d.rawText d.isExported
    let rendering := d.render all mode
    Text.cutBehind '\n' rendering.imports rendering.contents = (names.flatMap importLine, body) ∧
    (d.OpensExported → readImports rendering.contents = (names, body) ∧
      ∀ (d' : Declaration) (all' : Declarations) (mode' : MatchMode), all'.Unbroken → d'.OpensExported →
        (d'.render all' mode').contents = rendering.contents →
        d'.imports all' mode' = names ∧ d'.body = body) := by
  intro names body rendering
  have hnames : d.imports all mode = names := d.imports_eq all mode
  rw [← hnames]
  refine ⟨cutBehind_importBlock (fun _ hn => (hu.imports hn).1) _, ?_⟩
  intro he
  have hread := readImports_render hu he mode
  refine ⟨hread, ?_⟩
  intro d' all' mode' hu' he' hsame
  have hread' := readImports_render hu' he' mode'
  rw [hsame, hread, Prod.mk.injEq] at hread'
  exact ⟨hread'.1.symm, hread'.2.symm⟩

def referring : Declaration :=
  ⟨"B", .interface, "export\nimport \x7b A \x7d from './A';\ninterface B extends A \x7b\x7d", true, ⟨0, 56⟩⟩

def referred : Declarations := .ofList [⟨"A", .typeAlias, "type A = 1;", false, ⟨57, 68⟩⟩, referring]

theorem line_like_import_stays_behind :
    referred.Unbroken ∧ referring.OpensExported ∧
    Text.cutBehind '\n' 1 (referring.render referred .word).contents =
      ("import \x7b A \x7d from './A';\n".toList, referring.rawText) ∧
    readImports (referring.render referred .word).contents = (["A".toList], referring.rawText) := by
  have hu : referred.Unbroken := by
    unfold Declarations.Unbroken
    decide
  have he : referring.OpensExported := fun _ => ⟨_, rfl⟩
  have hnames : referred.dependencies referring .word = ["A".toList] := by decide +kernel
  obtain ⟨hcut, hrest⟩ := rendering_decodable hu referring .word
  obtain ⟨hread, -⟩ := hrest he
  rw [hnames] at hcut hread
  have himports : (referring.render referred .word).imports = 1 := by decide +kernel
  rw [himports] at hcut
  exact ⟨hu, he, hcut, hread⟩

end DeclSplit
