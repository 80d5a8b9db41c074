import DeclSplit.Proofs.CommandLine.Attempts
import DeclSplit.Proofs.Json.ReadingBack

/-! What programs read from the output.  It is one document, unless files are in the way: then their list stands
in front of it, or in its place. -/

namespace DeclSplit

open FileTree (Action)
open Json (Value read?)

namespace Json.Value

def field? (name : Text) : Value → Option Value
  | object members => members.lookup name
  | _ => none

def flag? : Value → Option Bool
  | flag b => some b
  | _ => none

def natural? : Value → Option ℕ
  | number run => if run.all Char.isDigit then some (Nat.ofDigitChars 10 run 0) else none
  | _ => none

def text? : Value → Option Text
  | text chars => some chars
  | _ => none

def items? : Value → Option (List Value)
  | list items => some items
  | _ => none

def members? : Value → Option (List (Text × Value))
  | object members => some members
  | _ => none

lemma natural?_ofNat (k : ℕ) : natural? (number (Text.ofNat k)) = some k := by
  have hdigits : (Text.ofNat k).all Char.isDigit = true := by
    rw [List.all_eq_true]
    exact fun _ => Json.Reading.isDigit_of_mem_ofNat
  rw [natural?, if_pos hdigits, Text.ofNat, Nat.ofDigitChars_toDigits (by decide) (by decide)]

end Json.Value

lemma mapM_eq_some {α β : Type} {decode : β → Option α} {encode : α → β} (h : ∀ a, decode (encode a) = some a)
    (l : List α) : (l.map encode).mapM decode = some l := by
  induction l with
  | nil => rfl
  | cons a l ih => simp [h, ih]

lemma mapM_of_mapM {α β γ : Type} {encode : α → Option β} {read : β → γ} {decode : γ → Option α}
    (h : ∀ a b, encode a = some b → decode (read b) = some a) {l : List α} {encoded : List β}
    (hl : l.mapM encode = some encoded) : (encoded.map read).mapM decode = some l := by
  induction l generalizing encoded with
  | nil =>
    cases hl
    rfl
  | cons a l ih =>
    simp only [List.mapM_cons, Option.bind_eq_bind, Option.bind_eq_some_iff, Option.pure_def, Option.some_inj] at hl
    obtain ⟨b, hb, more, hm, rfl⟩ := hl
    simp [h a b hb, ih hm]

def DeclarationKind.ofJsonName? (name : Text) : Option DeclarationKind :=
  [typeAlias, enum, interface].find? (·.jsonName.toList = name)

def Span.ofJson? (said : Value) : Option Span := do
  return ⟨← (← said.field? "start").natural?, ← (← said.field? "end").natural?⟩

def Declaration.ofJson? (said : Value) : Option Declaration := do
  return ⟨← (← said.field? "name").text?, ← DeclarationKind.ofJsonName? (← (← said.field? "kind").text?),
    ← (← said.field? "raw_text").text?, ← (← said.field? "is_exported").flag?,
    ← Span.ofJson? (← said.field? "span")⟩

def declarations? (said : Value) : Option (List Declaration) := do (← said.items?).mapM Declaration.ofJson?

def file? (member : Text × Value) : Option (Text × Path) := member.2.text?.map fun path => (member.1, .mk path)

def SplitResult.ofJson? (said : Value) : Option SplitResult := do
  return ⟨← (← said.field? "count").natural?, ← (← (← said.field? "types").members?).mapM file?⟩

lemma Span.ofJson?_toJson (span : Span) : ofJson? span.toJson.meaning = some span := by
  have hstart : span.toJson.meaning.field? "start" = some (.number (Text.ofNat span.start)) := rfl
  have hend : span.toJson.meaning.field? "end" = some (.number (Text.ofNat span.stop)) := rfl
  simp only [ofJson?, hstart, hend, Option.bind_eq_bind, Option.bind_some, Value.natural?_ofNat]
  rfl

lemma DeclarationKind.ofJsonName?_jsonName (kind : DeclarationKind) : ofJsonName? kind.jsonName = some kind := by
  cases kind <;> rfl

lemma Declaration.ofJson?_toJson (d : Declaration) : ofJson? d.toJson.meaning = some d := by
  have hname : d.toJson.meaning.field? "name" = some (.text d.name) := rfl
  have hkind : d.toJson.meaning.field? "kind" = some (.text d.kind.jsonName) := rfl
  have hraw : d.toJson.meaning.field? "raw_text" = some (.text d.rawText) := rfl
  have hexported : d.toJson.meaning.field? "is_exported" = some (.flag d.isExported) := rfl
  have hspan : d.toJson.meaning.field? "span" = some d.span.toJson.meaning := rfl
  simp only [ofJson?, hname, hkind, hraw, hexported, hspan, Option.bind_eq_bind, Option.bind_some, Value.text?,
    Value.flag?, DeclarationKind.ofJsonName?_jsonName, Span.ofJson?_toJson]
  rfl

lemma declarations?_toJson (all : Declarations) : declarations? all.toJson.meaning = some all.emitted := by
  rw [Declarations.toJson, Json.meaning, Json.meanings_eq, List.map_map]
  exact mapM_eq_some Declaration.ofJson?_toJson all.emitted

lemma file?_fileJson? {file : Text × Path} {member : Text × Json} (h : SplitResult.fileJson? file = some member) :
    file? (Json.memberMeaning member) = some file := by
  obtain ⟨text, ht, rfl⟩ := Option.map_eq_some_iff.mp h
  have hpath : file.2 = .mk text := congrArg Path.ofOs (OsText.text?_eq_some_iff.mp ht)
  exact congrArg (fun path => some (file.1, path)) hpath.symm

lemma SplitResult.ofJson?_toJson? {result : SplitResult} {document : Json} (h : result.toJson? = some document) :
    ofJson? document.meaning = some result := by
  obtain ⟨files, hfiles, rfl⟩ := Option.map_eq_some_iff.mp h
  have hdecoded : (files.map Json.memberMeaning).mapM file? = some result.files :=
    mapM_of_mapM (fun _ _ => file?_fileJson?) hfiles
  rw [← Json.memberMeanings_eq] at hdecoded
  have hcount : (Json.object [("count", .number result.count), ("types", .object files)]).meaning.field? "count" =
      some (.number (Text.ofNat result.count)) := rfl
  have htypes : (Json.object [("count", .number result.count), ("types", .object files)]).meaning.field? "types" =
      some (.object (Json.memberMeanings files)) := rfl
  simp only [ofJson?, hcount, htypes, hdecoded, Option.bind_eq_bind, Option.bind_some, Value.members?,
    Value.natural?_ofNat]
  rfl

def DocumentLine (text : Text) (said : Value) : Prop :=
  ∃ document, text = document ++ ['\n'] ∧ read? document = some said

lemma documentLine_write (document : Json) : DocumentLine (document.write ++ ['\n']) document.meaning :=
  ⟨document.write, rfl, Json.read?_write document⟩

lemma not_documentLine_capital {c : Char} (hc : c.isUpper = true) (front : Text) (said : Value) :
    ¬ DocumentLine (c :: front) said := by
  rintro ⟨document, hline, hread⟩
  cases document with
  | nil =>
    cases hline
    cases hc
  | cons d document =>
    obtain ⟨rfl, -⟩ := List.cons.inj hline
    simp [read?, Json.Reading.value_capital hc] at hread

def MachineReadable (text : Text) : Prop := text = [] ∨ ∃ said, DocumentLine text said

lemma not_machineReadable_capital {c : Char} (hc : c.isUpper = true) (front : Text) :
    ¬ MachineReadable (c :: front) := by
  rintro (h | ⟨said, h⟩)
  · cases h
  · exact not_documentLine_capital hc front said h

namespace CommandLine

variable {tree : FileTree} {arguments : List OsText} {input dir : Path} {options : SplitOptions}
  {around : Surroundings} {filter : LogFilter} {names : List Text} {debug : Bool} {command : Command}

def NoneInTheWay (tree : FileTree) (arguments : List OsText) : Prop :=
  ∀ input dir options names, Asked tree arguments input dir options →
    tree.inTheWay dir (options.extensionFor input) = .ok names → names = []

lemma Asked.noneInTheWay_iff (h : Asked tree arguments input dir options)
    (hn : tree.inTheWay dir (options.extensionFor input) = .ok names) :
    NoneInTheWay tree arguments ↔ names = [] := by
  constructor
  · intro hnone
    exact hnone _ _ _ _ h hn
  · rintro rfl input' dir' options' names' h' hn'
    obtain ⟨rfl, rfl, rfl⟩ := h.unique h'
    exact Except.ok.inj (hn'.symm.trans hn)

lemma not_machineReadable_named {heading : String} {c : Char} {front : Text} (hh : heading.toList = c :: front)
    (hc : c.isUpper = true) (names : List Text) (more : Text) :
    ¬ MachineReadable (Report.unlines (named heading names) ++ more) := by
  obtain ⟨rest, hrest⟩ : ∃ rest, Report.unlines (named heading names) ++ more = c :: rest :=
    ⟨_, by rw [named, hh]; rfl⟩
  rw [hrest]
  exact not_machineReadable_capital hc rest

lemma report_of_success (hp : parse arguments = .ok (.run ⟨debug, command⟩))
    (h0 : ((runProgram around arguments : Action Report) tree).1.exitCode = 0) :
    ∃ config, Configured tree config ∧ ((runProgram around arguments : Action Report) tree).1 =
      ((command.run config : Action RunResult) tree).1.report around
        (Invocation.logFilter ⟨debug, command⟩ around) := by
  have hreport : ((runProgram around arguments : Action Report) tree).1 =
      ((Invocation.run ⟨debug, command⟩ : Action RunResult) tree).1.report around
        (Invocation.logFilter ⟨debug, command⟩ around) := by
    simp only [runProgram, hp, Request.answer, FileTree.run_bind]
    rfl
  rcases run_cases tree ⟨debug, command⟩ with ⟨cause, hbad⟩ | ⟨config, hc, hrun⟩
  · rw [hreport, hbad] at h0
    cases h0
  · exact ⟨config, hc, by rw [hreport, hrun]⟩

def replacedLines (names : List Text) : List Text :=
  if names.isEmpty then [] else named "Overwriting the following files:" names

lemma outputText_tried {outcome : Outcome SplitResult}
    (h : ((SplitAttempt.tried names outcome).report around filter true).exitCode = 0) :
    ∃ result document, outcome.result = .ok result ∧ result.toJson? = some document ∧
      ((SplitAttempt.tried names outcome).report around filter true).outputText =
        Report.unlines (replacedLines names) ++ (document.write ++ ['\n']) := by
  cases hr : outcome.result with
  | error e => simp [SplitAttempt.report, hr] at h
  | ok result =>
    cases hd : result.toJson? with
    | none => simp [SplitAttempt.report, hr, told?, hd] at h
    | some document =>
      refine ⟨result, document, rfl, hd, ?_⟩
      simp [SplitAttempt.report, hr, told?, hd, Report.outputText, Report.unlines, replacedLines]

lemma outputText_listed {outcome : Outcome Declarations}
    (h : ((RunResult.listed true outcome).report around filter).exitCode = 0) :
    ∃ all, outcome.result = .ok all ∧
      ((RunResult.listed true outcome).report around filter).outputText = all.toJson.write ++ ['\n'] := by
  cases hr : outcome.result with
  | error e => simp [RunResult.report, hr] at h
  | ok all =>
    refine ⟨all, rfl, ?_⟩
    simp [RunResult.report, hr, Report.outputText, Report.unlines]

lemma machineReadable_tried_iff {outcome : Outcome SplitResult}
    (h : ((SplitAttempt.tried names outcome).report around filter true).exitCode = 0) :
    MachineReadable ((SplitAttempt.tried names outcome).report around filter true).outputText ↔ names = [] := by
  obtain ⟨result, document, -, -, hout⟩ := outputText_tried h
  rw [hout]
  constructor
  · intro hreadable
    by_contra hne
    rw [replacedLines, if_neg (by simpa using hne)] at hreadable
    exact not_machineReadable_named rfl (by decide) names _ hreadable
  · rintro rfl
    exact .inr ⟨_, documentLine_write document⟩

lemma list_output (hp : parse arguments = .ok (.run ⟨debug, .list input true⟩))
    (h0 : ((runProgram around arguments : Action Report) tree).1.exitCode = 0) :
    ∃ all said, ((Declarations.load input : Action _) tree).1.result = .ok all ∧
      DocumentLine ((runProgram around arguments : Action Report) tree).1.outputText said ∧
      declarations? said = some all.emitted := by
  obtain ⟨config, -, hreport⟩ := report_of_success hp h0
  rw [hreport] at h0
  obtain ⟨all, hall, hout⟩ := outputText_listed h0
  rw [hreport]
  refine ⟨all, all.toJson.meaning, hall, ?_, declarations?_toJson all⟩
  exact ⟨all.toJson.write, hout, Json.read?_write _⟩

section Create

variable {place : Option Path} {overwrite : Bool} {mode : Option MatchMode}

lemma report_asked (hp : parse arguments = .ok (.run ⟨debug, .create input place overwrite mode true⟩))
    (h0 : ((runProgram around arguments : Action Report) tree).1.exitCode = 0)
    {input' : Path} (asked : Asked tree arguments input' dir options) :
    ((runProgram around arguments : Action Report) tree).1 =
      ((splitInto input' (some dir) options : Action _) tree).1.report around
        (Invocation.logFilter ⟨debug, .create input place overwrite mode true⟩ around) true := by
  obtain ⟨config, hc, hreport⟩ := report_of_success hp h0
  obtain ⟨hp', hc', hd, rfl⟩ := asked
  cases hp.symm.trans hp'
  cases hc.unique hc'
  rw [hreport, ← hd]
  rfl

lemma create_readable_iff (hp : parse arguments = .ok (.run ⟨debug, .create input place overwrite mode true⟩))
    (h0 : ((runProgram around arguments : Action Report) tree).1.exitCode = 0) :
    MachineReadable ((runProgram around arguments : Action Report) tree).1.outputText ↔
      NoneInTheWay tree arguments := by
  obtain ⟨config, hc, hreport⟩ := report_of_success hp h0
  cases hd : place.or (config.output.map Path.mk) with
  | none =>
    have hnone : NoneInTheWay tree arguments := by
      rintro _ _ _ _ ⟨hp', hc', hd', -⟩
      cases hp.symm.trans hp'
      cases hc.unique hc'
      cases hd.symm.trans hd'
    have hempty : ((runProgram around arguments : Action Report) tree).1.outputText = [] := by
      simp only [hreport, Command.run, FileTree.run_bind, hd]
      rfl
    exact ⟨fun _ => hnone, fun _ => .inl hempty⟩
  | some dir =>
    have asked := Asked.create hp hc hd rfl
    have hasked := report_asked hp h0 asked
    rw [hasked, run_splitInto_eq] at h0 ⊢
    split at h0
    · cases h0
    · rename_i names hn
      rw [asked.noneInTheWay_iff hn]
      by_cases hstop : (!names.isEmpty && !(overwrite || config.overwrite.getD false)) = true
      · simp only [if_pos hstop]
        constructor
        · intro hreadable
          rw [SplitAttempt.report, Report.outputText, ← List.append_nil (Report.unlines _)] at hreadable
          exact absurd hreadable (not_machineReadable_named rfl (by decide) names [])
        · rintro rfl
          cases hstop
      · simp only [if_neg hstop] at h0 ⊢
        exact machineReadable_tried_iff h0

lemma create_output (hp : parse arguments = .ok (.run ⟨debug, .create input place overwrite mode true⟩))
    (h0 : ((runProgram around arguments : Action Report) tree).1.exitCode = 0)
    {input' : Path} (asked : Asked tree arguments input' dir options) {replaced : List Text}
    {events : List SplitEvent} {result : SplitResult}
    (tried : ((splitInto input' (some dir) options : Action _) tree).1 = .tried replaced ⟨events, .ok result⟩) :
    ∃ line said, ((runProgram around arguments : Action Report) tree).1.outputText =
        Report.unlines (replacedLines replaced) ++ line ∧ DocumentLine line said ∧
      SplitResult.ofJson? said = some result := by
  have hasked := report_asked hp h0 asked
  rw [hasked, tried] at h0 ⊢
  obtain ⟨_, document, he, hd, hout⟩ := outputText_tried h0
  cases he
  exact ⟨_, _, hout, documentLine_write document, SplitResult.ofJson?_toJson? hd⟩

end Create

theorem json_output_readable_iff (around : Surroundings) (hp : parse arguments = .ok (.run ⟨debug, command⟩))
    (hj : command.json = true) (h0 : ((runProgram around arguments : Action Report) tree).1.exitCode = 0) :
    let output := ((runProgram around arguments : Action Report) tree).1.outputText
    (MachineReadable output ↔ NoneInTheWay tree arguments) ∧
    (∀ input dir options replaced events result, Asked tree arguments input dir options →
      ((splitInto input (some dir) options : Action _) tree).1 = .tried replaced ⟨events, .ok result⟩ →
      ∃ line said, output = Report.unlines (replacedLines replaced) ++ line ∧ DocumentLine line said ∧
        SplitResult.ofJson? said = some result) ∧
    ∀ input, command = .list input true →
      ∃ all said, ((Declarations.load input : Action _) tree).1.result = .ok all ∧ DocumentLine output said ∧
        declarations? said = some all.emitted := by
  intro output
  cases command with
  | list input json =>
    obtain rfl : json = true := hj
    obtain ⟨all, said, hall, hline, hsaid⟩ := list_output hp h0
    have hnever : ∀ input dir options, ¬ Asked tree arguments input dir options := by
      rintro _ _ _ ⟨hp', -, -, -⟩
      cases hp.symm.trans hp'
    refine ⟨⟨fun _ _ _ _ _ h => absurd h (hnever _ _ _), fun _ => .inr ⟨said, hline⟩⟩,
      fun _ _ _ _ _ _ h => absurd h (hnever _ _ _), ?_⟩
    intro _ he
    cases he
    exact ⟨all, said, hall, hline, hsaid⟩
  | create input place overwrite mode json =>
    obtain rfl : json = true := hj
    refine ⟨create_readable_iff hp h0, fun _ _ _ _ _ _ asked tried => create_output hp h0 asked tried, ?_⟩
    intro _ he
    cases he

theorem fresh_output_readable :
    let arguments : List OsText := ["create", "a.ts", "--migrate", "out", "--json"]
    let report := ((runProgram quiet arguments : Action Report) fresh).1
    report.exitCode = 0 ∧ MachineReadable report.outputText ∧
      ∃ said, DocumentLine report.outputText said ∧
        SplitResult.ofJson? said = some ⟨1, [("A", "out/A.ts")]⟩ := by
  intro arguments report
  have parsed : parse arguments = .ok (.run ⟨false, .create "a.ts" (some "out") false none true⟩) := by
    decide +kernel
  have bare : Configured fresh {} := .absent (by decide +kernel)
  have success : report.exitCode = 0 := by decide +kernel
  have asked : Asked fresh arguments "a.ts" "out" {} := .create parsed bare rfl rfl
  have free : fresh.inTheWay "out" (SplitOptions.extensionFor {} "a.ts") = .ok [] := by decide +kernel
  have done : ((splitFile "a.ts" (some "out") {} : Action _) fresh).1.result.toOption =
    some ⟨1, [("A", "out/A.ts")]⟩ := by decide +kernel
  obtain ⟨hreadable, hcreate, -⟩ := json_output_readable_iff quiet parsed rfl success
  refine ⟨success, hreadable.mpr ((asked.noneInTheWay_iff free).mpr rfl), ?_⟩
  rcases hrun : ((splitFile "a.ts" (some "out") {} : Action _) fresh).1 with ⟨events, e | result⟩
  · rw [hrun] at done
    cases done
  · rw [hrun] at done
    have tried : ((splitInto "a.ts" (some "out") {} : Action _) fresh).1 = .tried [] ⟨events, .ok result⟩ := by
      rw [run_splitInto free (.inr rfl)]
      exact congrArg (SplitAttempt.tried []) hrun
    obtain ⟨line, said, hout, hline, hsaid⟩ := hcreate _ _ _ _ _ _ asked tried
    refine ⟨said, ?_, hsaid.trans done⟩
    rw [hout]
    exact hline

def outdated : FileTree :=
  ⟨[(["a.ts"], .file (.text "type A = 1;")), (["out"], .directory), (["out", "A.ts"], .file (.text ""))]⟩

def outdatedOutput : Text :=
  "Overwriting the following files:\n- A.ts\n" ++
    "\x7b\n  \"count\": 1,\n  \"types\": \x7b\n    \"A\": \"out/A.ts\"\n  \x7d\n\x7d\n"

theorem replaced_file_spoils_output :
    let arguments : List OsText := ["create", "a.ts", "--migrate", "out", "--overwrite", "--json"]
    let report := ((runProgram quiet arguments : Action Report) outdated).1
    parse arguments = .ok (.run ⟨false, .create "a.ts" (some "out") true none true⟩) ∧ report.exitCode = 0 ∧
      report.outputText = outdatedOutput ∧ ¬ MachineReadable report.outputText := by
  intro arguments report
  have told : report.outputText = outdatedOutput := by decide +kernel
  refine ⟨by decide +kernel, by decide +kernel, told, ?_⟩
  rw [told]
  exact not_machineReadable_capital (by decide) _

end CommandLine

end DeclSplit
