import DeclSplit.Proofs.Syntax.Naming
import DeclSplit.Split.Source

/-! The declarations of a source.  Each comes from a statement, whose text mentions the name as it is spelled
there. -/

namespace DeclSplit

open Text

variable {source : Text} {input : Path} {parsed : ParsedSource} {statement : Statement} {d : Declaration}

namespace Declarations

lemma foldl_push (ds : List Declaration) (all : Declarations) : ds.foldl push all =
    ⟨all.aliases ++ ds.filter (·.kind = .typeAlias), all.enums ++ ds.filter (·.kind = .enum),
      all.interfaces ++ ds.filter (·.kind = .interface)⟩ := by
  induction ds generalizing all with
  | nil => simp
  | cons d ds ih =>
    rw [List.foldl_cons, ih, push]
    cases hk : d.kind <;> simp [hk]

lemma ofList_eq (ds : List Declaration) : ofList ds =
    ⟨ds.filter (·.kind = .typeAlias), ds.filter (·.kind = .enum), ds.filter (·.kind = .interface)⟩ :=
  foldl_push ds {}

lemma mem_emitted_ofList {ds : List Declaration} : d ∈ (ofList ds).emitted ↔ d ∈ ds := by
  simp only [ofList_eq, emitted, List.mem_append, List.mem_filter, decide_eq_true_eq]
  cases hk : d.kind <;> simp

end Declarations

lemma StatementForm.introduced?_eq_some {form : StatementForm} {kind : DeclarationKind} {text : Text}
    {isExported : Bool} (h : form.introduced? = some ((kind, text), isExported)) :
    ∃ name ∈ form.token?, text = name.name := by
  have named : ∀ declared : Introduced, declared.named? = some (kind, text) →
      ∃ name ∈ declared.token?, text = name.name := by
    intro declared hd
    cases declared <;> cases hd <;> exact ⟨_, rfl, rfl⟩
  cases form with
  | bare declared =>
    obtain ⟨_, hd, he⟩ := Option.map_eq_some_iff.mp h
    cases he
    exact named declared hd
  | exported inner =>
    cases inner with
    | none => cases h
    | some inner =>
      obtain ⟨_, hd, he⟩ := Option.map_eq_some_iff.mp h
      cases he
      exact named inner.declared hd
  | exportedDefault inner =>
    obtain ⟨span, declared⟩ := inner
    cases declared <;> cases h
    exact ⟨_, rfl, rfl⟩
  | other => cases h

lemma Statement.declaration?_eq_some (h : statement.declaration? source = some d) :
    ∃ name ∈ statement.form.token?, d.name = name.name ∧
      d.rawText = slice source statement.span.start statement.span.stop := by
  obtain ⟨⟨⟨kind, text⟩, isExported⟩, hi, rfl⟩ := Option.map_eq_some_iff.mp h
  obtain ⟨name, hn, rfl⟩ := StatementForm.introduced?_eq_some hi
  exact ⟨name, hn, rfl, rfl⟩

lemma Statement.span_of_declaration? (h : statement.declaration? source = some d) : d.span = statement.span := by
  obtain ⟨_, _, rfl⟩ := Option.map_eq_some_iff.mp h
  rfl

namespace ParsedSource

lemma declarations_of_read (hr : read source input = .ok parsed) :
    parsed.declarations = (Program.parse input.dialect source).declarations source := by
  simp only [read] at hr
  split at hr
  · cases hr
    rfl
  · cases hr

lemma mem_emitted_iff (hr : read source input = .ok parsed) : d ∈ parsed.declarations.emitted ↔
    ∃ statement ∈ (Program.parse input.dialect source).statements, statement.declaration? source = some d := by
  rw [declarations_of_read hr, Program.declarations, Declarations.mem_emitted_ofList, Program.declarationList,
    List.mem_filterMap]

lemma isNamePart_of_mem_name {c : Char} (hr : read source input = .ok parsed)
    (hd : d ∈ parsed.declarations.emitted) (hc : c ∈ d.name) : isNamePart c = true := by
  obtain ⟨statement, hs, hd⟩ := (mem_emitted_iff hr).mp hd
  obtain ⟨name, hn, he, -⟩ := Statement.declaration?_eq_some hd
  exact (Program.names_of_mem hs hn).parts c (he ▸ hc)

lemma slash_notMem_name (hr : read source input = .ok parsed) (hd : d ∈ parsed.declarations.emitted) :
    '/' ∉ d.name := by
  intro hslash
  have hpart := isNamePart_of_mem_name hr hd hslash
  revert hpart
  decide

lemma occurs_rawText (hr : read source input = .ok parsed) (hd : d ∈ parsed.declarations.emitted) :
    Occurs source d.span.start d.rawText ∧ d.span.start + byteLength d.rawText = d.span.stop := by
  obtain ⟨statement, hs, hd⟩ := (mem_emitted_iff hr).mp hd
  obtain ⟨name, hn, -, ht⟩ := Statement.declaration?_eq_some hd
  rw [ht, Statement.span_of_declaration? hd]
  exact (Program.names_of_mem hs hn).whole

theorem own_name_mentioned (hr : read source input = .ok parsed) : ∀ d ∈ parsed.declarations.emitted,
    ∃ statement ∈ (Program.parse input.dialect source).statements, statement.declaration? source = some d ∧
      ∃ name ∈ statement.form.token?, d.name = name.name ∧ slice source name.start name.stop = name.lexeme ∧
        references d.rawText name.lexeme .substring = true ∧
        (name.isEscaped = true ↔ '\\' ∈ slice source name.start name.stop) ∧
        (name.isEscaped = false → ∀ mode, references d.rawText d.name mode = true) := by
  intro d hd
  obtain ⟨statement, hs, hd⟩ := (mem_emitted_iff hr).mp hd
  obtain ⟨name, hn, he, ht⟩ := Statement.declaration?_eq_some hd
  have hnames := Program.names_of_mem hs hn
  obtain ⟨front, back, hslice, hfront, hback⟩ := hnames.apart
  refine ⟨statement, hs, hd, name, hn, he, hnames.occurs, ?_, by rw [hnames.occurs, hnames.escaped], ?_⟩
  · rw [ht, hslice]
    exact references_substring_iff.mpr ⟨hnames.nonempty, List.infix_append _ _ _⟩
  · intro hplain mode
    have hlexeme := Token.name_eq_lexeme hplain
    rw [ht, hslice, he, hlexeme]
    refine references_of_delimited hnames.nonempty ?_ hback mode
    intro c hc
    obtain ⟨hid, hpart⟩ := separator_apart (hfront c hc)
    refine ⟨?_, hid⟩
    intro hmem
    rw [← hlexeme] at hmem
    rw [hnames.parts c hmem] at hpart
    cases hpart

def delta : Declaration := ⟨"Δ_1", .typeAlias, "export declare type/**/Δ_1<T> = T;", true, ⟨0, 35⟩⟩

theorem delta_mentions_itself :
    read "export declare type/**/Δ_1<T> = T;" "a.ts" = .ok ⟨.ofList [delta], []⟩ ∧
      ∀ mode, references delta.rawText delta.name mode = true := by
  have hr : read "export declare type/**/Δ_1<T> = T;" "a.ts" = .ok ⟨.ofList [delta], []⟩ := by decide +kernel
  refine ⟨hr, ?_⟩
  obtain ⟨statement, hs, -, name, hn, -, -, -, -, hplain⟩ := own_name_mentioned hr delta (by decide +kernel)
  refine hplain ?_
  have hall : ∀ statement ∈ (Program.parse (Path.dialect "a.ts") "export declare type/**/Δ_1<T> = T;").statements,
      ∀ name ∈ statement.form.token?, name.isEscaped = false := by decide +kernel
  exact hall statement hs name hn

def escaped : Declaration := ⟨"A", .typeAlias, "type \\u0041 = 1;", false, ⟨0, 16⟩⟩

theorem escaped_name_not_mentioned :
    read "type \\u0041 = 1;" "a.ts" = .ok ⟨.ofList [escaped], []⟩ ∧ escaped ∈ (Declarations.ofList [escaped]).emitted ∧
      ∀ mode, references escaped.rawText escaped.name mode = false := by
  refine ⟨by decide +kernel, by decide +kernel, ?_⟩
  intro mode
  cases mode <;> decide +kernel

end ParsedSource

end DeclSplit
