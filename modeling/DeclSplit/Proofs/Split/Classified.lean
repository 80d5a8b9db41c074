import DeclSplit.Proofs.Split.Reordering

/-! Classification loses no declaration and invents none: the declarations of a program are told by the forms of
its statements alone, in their order. -/

namespace DeclSplit

open Text

variable {source : Text} {program : Program}

inductive Introduced.Tells : Introduced → DeclarationKind → Text → Prop
  | typeAlias (name : Token) : Tells (.typeAlias name) .typeAlias name.name
  | enum (name : Token) : Tells (.enum name) .enum name.name
  | interface (name : Token) : Tells (.interface name) .interface name.name

inductive StatementForm.Tells : StatementForm → DeclarationKind → Text → Bool → Prop
  | bare {declared : Introduced} {kind : DeclarationKind} {name : Text} :
      declared.Tells kind name → Tells (.bare declared) kind name false
  | exported {span : Span} {declared : Introduced} {kind : DeclarationKind} {name : Text} :
      declared.Tells kind name → Tells (.exported (some ⟨span, declared⟩)) kind name true
  | exportedDefault (span : Span) (name : Token) :
      Tells (.exportedDefault ⟨span, .interface name⟩) .interface name.name true

namespace Statement

structure Declares (source : Text) (s : Statement) (d : Declaration) : Prop where
  form : s.form.Tells d.kind d.name d.isExported
  span : d.span = s.span
  rawText : d.rawText = slice source s.span.start s.span.stop

def Stands (source : Text) (s : Statement) : Prop :=
  ∃ part, Occurs source s.span.start part ∧ s.span.start + byteLength part = s.span.stop

end Statement

structure Program.Placed (source : Text) (program : Program) : Prop where
  stands : ∀ s ∈ program.statements, s.Stands source
  apart : program.statements.Pairwise fun s t => s.span.stop ≤ t.span.start

/-- One thing for each member of a list that there is one for, in the order of the list, and nothing else. -/
inductive Collects {α β : Type} (P : α → β → Prop) : List α → List β → Prop
  | nil : Collects P [] []
  | found {a : α} {b : β} {as : List α} {bs : List β} : P a b → Collects P as bs → Collects P (a :: as) (b :: bs)
  | other {a : α} {as : List α} {bs : List β} : (∀ b, ¬ P a b) → Collects P as bs → Collects P (a :: as) bs

structure Classifies (source : Text) (statements : List Statement) (listed : List Declaration)
    (all : Declarations) : Prop where
  inOrder : Collects (Statement.Declares source) statements listed
  aliases : Collects (fun s d => s.Declares source d ∧ d.kind = .typeAlias) statements all.aliases
  enums : Collects (fun s d => s.Declares source d ∧ d.kind = .enum) statements all.enums
  interfaces : Collects (fun s d => s.Declares source d ∧ d.kind = .interface) statements all.interfaces
  apart : listed.Pairwise fun d e => d.span.stop ≤ e.span.start
  groupsApart : ∀ group ∈ [all.aliases, all.enums, all.interfaces],
    group.Pairwise fun d e => d.span.stop ≤ e.span.start
  within : ∀ d ∈ listed, Occurs source d.span.start d.rawText ∧ d.span.start + byteLength d.rawText = d.span.stop
  emitted : all.emitted.Perm listed
  lookedUp : all.lookedUp.Perm listed

lemma collects_filterMap {α β : Type} {P : α → β → Prop} {f : α → Option β} (hf : ∀ a b, f a = some b ↔ P a b)
    (as : List α) : Collects P as (as.filterMap f) := by
  induction as with
  | nil => exact .nil
  | cons a as ih =>
    cases h : f a with
    | none =>
      rw [List.filterMap_cons_none h]
      refine .other ?_ ih
      intro b hb
      rw [(hf a b).mpr hb] at h
      cases h
    | some b =>
      rw [List.filterMap_cons_some h]
      exact .found ((hf a b).mp h) ih

lemma Introduced.tells_iff {declared : Introduced} {kind : DeclarationKind} {name : Text} :
    declared.named? = some (kind, name) ↔ declared.Tells kind name := by
  constructor
  · intro h
    cases declared <;> cases h <;> constructor
  · rintro (name | name | name) <;> rfl

lemma StatementForm.tells_iff {form : StatementForm} {kind : DeclarationKind} {name : Text} {isExported : Bool} :
    form.introduced? = some ((kind, name), isExported) ↔ form.Tells kind name isExported := by
  constructor
  · intro h
    cases form with
    | bare declared =>
      obtain ⟨_, hn, he⟩ := Option.map_eq_some_iff.mp h
      cases he
      exact .bare (Introduced.tells_iff.mp hn)
    | exported inner =>
      cases inner with
      | none => cases h
      | some inner =>
        obtain ⟨_, hn, he⟩ := Option.map_eq_some_iff.mp h
        cases he
        exact .exported (Introduced.tells_iff.mp hn)
    | exportedDefault inner =>
      obtain ⟨span, declared⟩ := inner
      cases declared <;> cases h
      exact .exportedDefault _ _
    | other => cases h
  · rintro (h | h | ⟨span, name⟩)
    · simp [introduced?, Introduced.tells_iff.mpr h]
    · simp [introduced?, Introduced.tells_iff.mpr h]
    · rfl

namespace Statement

lemma declares_iff {s : Statement} {d : Declaration} : s.declaration? source = some d ↔ s.Declares source d := by
  constructor
  · intro h
    obtain ⟨⟨⟨kind, name⟩, isExported⟩, hi, rfl⟩ := Option.map_eq_some_iff.mp h
    exact ⟨StatementForm.tells_iff.mp hi, rfl, rfl⟩
  · rintro ⟨hform, hspan, htext⟩
    rw [declaration?, StatementForm.tells_iff.mpr hform, Option.map_some, ← htext, ← hspan]

lemma Stands.occurs {s : Statement} (h : s.Stands source) :
    Occurs source s.span.start (slice source s.span.start s.span.stop) ∧
      s.span.start + byteLength (slice source s.span.start s.span.stop) = s.span.stop := by
  obtain ⟨part, hpart, hstop⟩ := h
  rw [← hstop, slice_of_occurs hpart]
  exact ⟨hpart, rfl⟩

end Statement

namespace Program

lemma collects_filter_declarationList (kind : DeclarationKind) :
    Collects (fun s d => s.Declares source d ∧ d.kind = kind) program.statements
      ((program.declarationList source).filter (·.kind = kind)) := by
  rw [declarationList, List.filter_filterMap]
  apply collects_filterMap
  intro s d
  rw [Option.filter_eq_some_iff, Statement.declares_iff, decide_eq_true_eq]

lemma Placed.pairwise_declarationList (h : program.Placed source) :
    (program.declarationList source).Pairwise fun d e => d.span.stop ≤ e.span.start := by
  refine h.apart.filterMap _ ?_
  intro s t hst d hd e he
  rw [(Statement.declares_iff.mp hd).span, (Statement.declares_iff.mp he).span]
  exact hst

lemma Placed.occurs_rawText (h : program.Placed source) {d : Declaration}
    (hd : d ∈ program.declarationList source) :
    Occurs source d.span.start d.rawText ∧ d.span.start + byteLength d.rawText = d.span.stop := by
  obtain ⟨s, hs, hd⟩ := List.mem_filterMap.mp hd
  have hdeclares := Statement.declares_iff.mp hd
  rw [hdeclares.span, hdeclares.rawText]
  exact (h.stands s hs).occurs

lemma Placed.classifies (h : program.Placed source) :
    Classifies source program.statements (program.declarationList source) (program.declarations source) := by
  have hgroups := Declarations.ofList_eq (program.declarationList source)
  have hemitted := Declarations.emitted_ofList (program.declarationList source)
  rw [declarations]
  refine ⟨collects_filterMap (fun _ _ => Statement.declares_iff) _, ?_, ?_, ?_, h.pairwise_declarationList, ?_,
    fun d hd => h.occurs_rawText hd, hemitted, (Declarations.lookedUp_perm_emitted _).trans hemitted⟩
  · rw [hgroups]
    exact collects_filter_declarationList .typeAlias
  · rw [hgroups]
    exact collects_filter_declarationList .enum
  · rw [hgroups]
    exact collects_filter_declarationList .interface
  · rw [hgroups]
    intro group hg
    simp only [List.mem_cons, List.not_mem_nil, or_false] at hg
    rcases hg with rfl | rfl | rfl <;> exact h.pairwise_declarationList.filter _

lemma isEmpty_declarations_iff : (program.declarations source).isEmpty = true ↔
    ∀ s ∈ program.statements, ∀ d, ¬ s.Declares source d := by
  have hsize : (program.declarations source).size = (program.declarationList source).length := by
    rw [← Declarations.length_emitted]
    exact (Declarations.emitted_ofList _).length_eq
  rw [Declarations.isEmpty, hsize, beq_iff_eq, List.length_eq_zero_iff, declarationList, List.filterMap_eq_nil_iff]
  refine forall₂_congr fun s _ => ?_
  rw [Option.eq_none_iff_forall_ne_some]
  exact forall_congr' fun d => not_congr Statement.declares_iff

end Program

theorem classification_exact (placed : program.Placed source) :
    Classifies source program.statements (program.declarationList source) (program.declarations source) ∧
      ∀ input : Path, Program.parse input.dialect source = program → program.readable = true →
        ((Declarations.ofSource source input).result = .error .noDeclarations ↔
          ∀ s ∈ program.statements, ∀ d, ¬ s.Declares source d) ∧
        ((∃ s ∈ program.statements, ∃ d, s.Declares source d) →
          (Declarations.ofSource source input).result = .ok (program.declarations source)) := by
  refine ⟨placed.classifies, ?_⟩
  intro input hp hr
  have hread : ParsedSource.read source input = .ok ⟨program.declarations source, program.diagnostics⟩ := by
    simp [ParsedSource.read, hp, hr]
  rw [← Program.isEmpty_declarations_iff]
  cases he : (program.declarations source).isEmpty with
  | true =>
    refine ⟨by simp [Declarations.ofSource, hread, he], ?_⟩
    rintro ⟨s, hs, d, hd⟩
    exact absurd hd (Program.isEmpty_declarations_iff.mp he s hs d)
  | false => simp [Declarations.ofSource, hread, he]

def mixedText : Text := "é;\nexport default interface I \x7b \x7d\nnamespace N \x7b export type T = 1 \x7d " ++
  "export \x7b I \x7d;\ndeclare enum I \x7b \x7d"

def mixedFace : Declaration := ⟨"I", .interface, "export default interface I \x7b \x7d", true, ⟨4, 34⟩⟩

def mixedEnum : Declaration := ⟨"I", .enum, "declare enum I \x7b \x7d", false, ⟨83, 101⟩⟩

theorem mixed_classification_exact :
    let program := Program.parse (Path.dialect "a.ts") mixedText
    program.statements.length = 5 ∧ program.Placed mixedText ∧
      Classifies mixedText program.statements [mixedFace, mixedEnum] ⟨[], [mixedEnum], [mixedFace]⟩ ∧
      (Declarations.ofSource mixedText "a.ts").result = .ok ⟨[], [mixedEnum], [mixedFace]⟩ := by
  intro program
  obtain ⟨hlength, hreadable, listed, hcut, hapart⟩ : program.statements.length = 5 ∧ program.readable = true ∧
      program.declarationList mixedText = [mixedFace, mixedEnum] ∧
      (∀ s ∈ program.statements, mixedText = takeBytes s.span.start mixedText ++
        slice mixedText s.span.start s.span.stop ++ dropBytes s.span.stop mixedText ∧
        byteLength (takeBytes s.span.start mixedText) = s.span.start ∧
        s.span.start + byteLength (slice mixedText s.span.start s.span.stop) = s.span.stop) ∧
      program.statements.Pairwise fun s t => s.span.stop ≤ t.span.start := by decide +kernel
  have placed : program.Placed mixedText := by
    refine ⟨?_, hapart⟩
    intro s hs
    obtain ⟨hwhole, hstart, hstop⟩ := hcut s hs
    exact ⟨_, ⟨_, _, hwhole, hstart⟩, hstop⟩
  have grouped : program.declarations mixedText = ⟨[], [mixedEnum], [mixedFace]⟩ := by
    rw [Program.declarations, listed]
    rfl
  have hface : mixedFace ∈ program.declarationList mixedText := by
    rw [listed]
    exact List.mem_cons_self
  obtain ⟨s, hs, hd⟩ := List.mem_filterMap.mp hface
  obtain ⟨hclass, hfound⟩ := classification_exact placed
  obtain ⟨-, hresult⟩ := hfound "a.ts" rfl hreadable
  rw [listed, grouped] at hclass
  rw [grouped] at hresult
  exact ⟨hlength, placed, hclass, hresult ⟨s, hs, mixedFace, Statement.declares_iff.mp hd⟩⟩

end DeclSplit
