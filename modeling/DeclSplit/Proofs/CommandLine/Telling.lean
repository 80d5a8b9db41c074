import DeclSplit.Proofs.CommandLine.Attempts
import DeclSplit.Proofs.Split.ResultMap

/-! Results that cannot be told to programs: a document holds texts, and the directory may have a name that is none. -/

namespace DeclSplit

open FileTree (Action)

variable {tree : FileTree} {input dir : Path} {options : SplitOptions} {result : SplitResult} {name : Text}

lemma mapM_eq_none_iff {α β : Type} {f : α → Option β} {l : List α} :
    l.mapM f = none ↔ ∃ a ∈ l, f a = none := by
  induction l with
  | nil => simp
  | cons a l ih =>
    rw [List.mapM_cons]
    simp only [List.exists_mem_cons_iff, ← ih]
    cases f a with
    | none => simp
    | some b => cases l.mapM f <;> simp

lemma SplitResult.toJson?_eq_none_iff : result.toJson? = none ↔ ∃ file ∈ result.files, file.2.os.text? = none := by
  simp only [toJson?, fileJson?, Option.map_eq_none_iff, mapM_eq_none_iff]

lemma Path.text?_join (hn : '/' ∉ name) (extension : Text) :
    (dir.join (fileName name extension)).os.text? = none ↔ dir.os.text? = none := by
  have hh : (Text.os (fileName name extension)).head? ≠ some .slash := by
    cases name with
    | nil => simp [fileName]
    | cons c name =>
      intro h
      cases h
      exact hn List.mem_cons_self
  rw [join, if_neg hh]
  split <;> simp [OsText.text?_eq_none_iff, Text.os]

lemma toJson?_eq_none_of_split (h : ((splitFile input (some dir) options : Action _) tree).1.result = .ok result) :
    result.toJson? = none ↔ dir.os.text? = none := by
  rcases splitFile_ends tree input dir options with ⟨cause, he⟩ | ⟨source, -, ends⟩
  · rw [he] at h
    cases h
  obtain ⟨parsed, made, hr, -, hw⟩ := ends.whole h
  obtain ⟨found, hf, hsome⟩ := ends.found h
  cases hr.symm.trans hf
  have mapped : result = _ := Except.ok.inj (h.symm.trans (hw.done rfl))
  have hplace : ∀ d ∈ parsed.declarations.emitted,
      (placeOf input dir options d.name).os.text? = none ↔ dir.os.text? = none :=
    fun d hd => Path.text?_join (ParsedSource.slash_notMem_name hr hd) _
  rw [SplitResult.toJson?_eq_none_iff, mapped]
  simp only [ParsedSource.plan, noteAll_plan]
  constructor
  · rintro ⟨file, hf, hnone⟩
    obtain ⟨name, hn, rfl⟩ := List.mem_map.mp hf
    obtain ⟨d, hd, rfl⟩ := List.mem_map.mp ((eraseDups_sublist _).subset hn)
    exact (hplace d hd).mp hnone
  · intro hnone
    obtain ⟨d, hd⟩ := List.exists_mem_of_ne_nil _ hsome
    have hn : d.name ∈ (parsed.declarations.emitted.map (·.name)).eraseDups :=
      List.mem_eraseDups.mpr (List.mem_map_of_mem hd)
    exact ⟨_, List.mem_map_of_mem hn, (hplace d hd).mpr hnone⟩

namespace CommandLine

variable {arguments : List OsText} {json : Bool}

lemma told?_eq_none_iff : told? json result = none ↔ json = true ∧ result.toJson? = none := by
  cases json <;> simp [told?]

def complaint (json : Bool) : Except SplitError SplitResult → List Text
  | .error e => splitFailure e
  | .ok result => if told? json result = none then [untellable] else []

section Report

variable (around : Surroundings) (filter : LogFilter) (json : Bool) (names : List Text) (outcome : Outcome SplitResult)

lemma errors_tried : ((SplitAttempt.tried names outcome).report around filter json).errors =
    filter.lines around.time outcome.events ++ complaint json outcome.result := by
  cases hr : outcome.result with
  | error e => simp only [SplitAttempt.report, hr, complaint]
  | ok result => cases ht : told? json result <;> simp [SplitAttempt.report, hr, ht, complaint]

lemma exitCode_tried : ((SplitAttempt.tried names outcome).report around filter json).exitCode =
    if complaint json outcome.result = [] then 0 else 1 := by
  cases hr : outcome.result with
  | error e => simp only [SplitAttempt.report, hr, complaint, splitFailure, reduceCtorEq, if_false]
  | ok result => cases ht : told? json result <;> simp [SplitAttempt.report, hr, ht, complaint]

end Report

/-- The split that is asked for comes to its end, and its result cannot be told to programs. -/
def Untellable (tree : FileTree) (arguments : List OsText) : Prop :=
  ∃ input dir options result, Attempts tree arguments input dir options ∧
    ((splitFile input (some dir) options : Action _) tree).1.result = .ok result ∧ dir.os.text? = none

def Untold (tree : FileTree) (arguments : List OsText) : Prop := AsksJson arguments true ∧ Untellable tree arguments

lemma Attempts.untold_iff (h : Attempts tree arguments input dir options) (asked : AsksJson arguments json) :
    Untold tree arguments ↔
      ∃ result, ((splitFile input (some dir) options : Action _) tree).1.result = .ok result ∧
        told? json result = none := by
  constructor
  · rintro ⟨hjson, input', dir', options', result, ha, hr, hd⟩
    obtain rfl := asked.unique hjson
    obtain ⟨rfl, rfl, rfl⟩ := h.asked.unique ha.asked
    exact ⟨result, hr, told?_eq_none_iff.mpr ⟨rfl, (toJson?_eq_none_of_split hr).mpr hd⟩⟩
  · rintro ⟨result, hr, hnone⟩
    obtain ⟨rfl, hj⟩ := told?_eq_none_iff.mp hnone
    exact ⟨asked, input, dir, options, result, h, hr, (toJson?_eq_none_of_split hr).mp hj⟩

def unnameable : OsText := Text.os "out" ++ [.stray 0xFF]

end CommandLine

end DeclSplit
