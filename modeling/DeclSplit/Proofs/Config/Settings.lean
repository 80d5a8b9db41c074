import DeclSplit.Config.Load
import DeclSplit.Proofs.Config.Readings
import DeclSplit.Proofs.Toml.Documents

/-! The configuration depends on four values only: texts that give the four settings the same, or not at all, are
read alike, whatever else they hold and however they are written. -/

namespace DeclSplit

open Toml Rules

namespace Toml.Rules

def setting? (bindings : Bindings) (name : Text) : Option Meaning :=
  match bindings "split" with
  | some (.table section_) => section_ name
  | _ => none

def Sectioned (bindings : Bindings) : Prop := ∀ m ∈ bindings "split", ∃ section_, m = .table section_

end Toml.Rules

section Documents

variable {doc : Document} {bindings bindings' : Bindings} {config : Config} {source source' : Text}

lemma find?_map (name : Text) (entries : Entries) :
    (entries.find? fun (key, _) => key.name = name).map Prod.snd = entries.item? name := by
  induction entries with
  | nil => rfl
  | cons e entries ih =>
    obtain ⟨key, item⟩ := e
    by_cases h : key.name = name
    · simp [Entries.item?, h]
    · simpa [Entries.item?, h] using ih

lemma mean_nothing : Entries.Mean [] fun _ => none := ⟨List.nodup_nil, fun _ => .none⟩

lemma ofDocument_ok (h : doc.entries.Mean bindings) (hs : Sectioned bindings) :
    Config.ofDocument doc = .ok config ↔ config.Of (setting? bindings) := by
  have hfind := find?_map "split" doc.entries
  have hsplit := h.items "split"
  rw [← hfind] at hsplit
  rw [Config.ofDocument]
  cases hf : doc.entries.find? fun (key, _) => key.name = "split".toList with
  | none =>
    rw [hf, Option.map_none, rel_none] at hsplit
    have hsetting : setting? bindings = fun _ => none := by
      funext name
      rw [setting?, hsplit]
    rw [hsetting, ← Config.ofEntries_ok mean_nothing]
    rfl
  | some found =>
    obtain ⟨key, item⟩ := found
    rw [hf, Option.map_some, rel_some] at hsplit
    obtain ⟨m, hm, hi⟩ := hsplit
    obtain ⟨section_, rfl⟩ := hs m hm
    have hsetting : setting? bindings = section_ := by
      funext name
      rw [setting?, hm]
    cases hi with
    | table hd hitems =>
      rw [hsetting, ← Config.ofEntries_ok ⟨hd, hitems⟩]
      exact Config.atKey_ok

lemma parse_ok (h : Describes .reader source bindings) (hs : Sectioned bindings) :
    Config.parse source = .ok config ↔ config.Of (setting? bindings) := by
  obtain ⟨doc, hparse, hm⟩ := parse_of_describes h
  rw [← ofDocument_ok hm hs, Config.parse, hparse]
  cases hd : Config.ofDocument doc with
  | error e => simp [hd]
  | ok config' => simp [hd]

lemma parse_bad (h : Describes .reader source bindings) (hn : ∀ config, Config.parse source ≠ .ok config) :
    ∃ fault span, Config.parse source = .error (.badValue source fault span) := by
  obtain ⟨doc, hparse, -⟩ := parse_of_describes h
  rw [Config.parse, hparse] at hn ⊢
  cases hd : Config.ofDocument doc with
  | error e => exact ⟨e.1, e.2, by simp [hd]⟩
  | ok config => exact absurd (by simp [hd]) (hn config)

def settingNames : List Text := ["output", "overwrite", "match", "extension"]

lemma Config.Of.of_same {given given' : Bindings} (h : config.Of given)
    (hsame : ∀ name ∈ settingNames, given name = given' name) : config.Of given' := by
  constructor
  · exact hsame "output" (by simp [settingNames]) ▸ h.output
  · exact hsame "overwrite" (by simp [settingNames]) ▸ h.overwrite
  · exact hsame "match" (by simp [settingNames]) ▸ h.mode
  · exact hsame "extension" (by simp [settingNames]) ▸ h.extension

theorem config_determined_by_settings (h : Describes .reader source bindings)
    (h' : Describes .reader source' bindings') (hs : Sectioned bindings) (hs' : Sectioned bindings')
    (hsame : ∀ name ∈ settingNames, setting? bindings name = setting? bindings' name) :
    (∃ config : Config, config.Of (setting? bindings) ∧
      Config.parse source = .ok config ∧ Config.parse source' = .ok config ∧
      (config.output = none ↔ setting? bindings "output" = none) ∧
      (config.overwrite = none ↔ setting? bindings "overwrite" = none) ∧
      (config.mode = none ↔ setting? bindings "match" = none) ∧
      (config.extension = none ↔ setting? bindings "extension" = none)) ∨
    (¬ ∃ config : Config, config.Of (setting? bindings)) ∧
      (∃ fault span, Config.parse source = .error (.badValue source fault span)) ∧
      ∃ fault span, Config.parse source' = .error (.badValue source' fault span) := by
  have hiff : ∀ config, Config.parse source = .ok config ↔ Config.parse source' = .ok config := by
    intro config
    rw [parse_ok h hs, parse_ok h' hs']
    exact ⟨fun hof => hof.of_same hsame, fun hof => hof.of_same fun name hn => (hsame name hn).symm⟩
  by_cases hgiven : ∃ config : Config, config.Of (setting? bindings)
  · obtain ⟨config, hof⟩ := hgiven
    have hconfig : Config.parse source = .ok config := (parse_ok h hs).mpr hof
    obtain ⟨ho, hw, hm, he⟩ := hof
    exact .inl ⟨config, ⟨ho, hw, hm, he⟩, hconfig, (hiff config).mp hconfig, eq_none_iff_of_rel ho,
      eq_none_iff_of_rel hw, eq_none_iff_of_rel hm, eq_none_iff_of_rel he⟩
  · have hnone : ∀ config, Config.parse source ≠ .ok config :=
      fun config hc => hgiven ⟨config, (parse_ok h hs).mp hc⟩
    exact .inr ⟨hgiven, parse_bad h hnone, parse_bad h' fun config hc => hnone config ((hiff config).mpr hc)⟩

end Documents

section Single

variable {L : Limits} {depth : ℕ} {k v : Text} {way : List Text} {key : Text} {m : Meaning}

lemma line_single (hk : DottedKey L k (way, key)) (hd : L.depth depth) (hv : Value L depth v m) :
    Line L (k ++ '=' :: v) [.assign way key m] := by
  have hpair : KeyValue L (Value L depth) (k ++ ['='] ++ v) ((way, key), m) := .mk hk (by decide) hv
  have hline : Line L ([] ++ (k ++ ['='] ++ v) ++ [] ++ []) [.assign way key m] :=
    .assignment (by decide) hd hpair (by decide) .none
  simpa using hline

lemma key_single (hl : L.parts 1) (hn : k ≠ []) (hk : Made isBare k) : DottedKey L k ([], k) := by
  have hparts : Parts (k ++ []) [k] := .last (.bare hn hk) (by decide)
  rw [List.append_nil] at hparts
  exact ⟨hparts, hl⟩

end Single

def only (name : Text) (m : Meaning) : Bindings := Function.update (fun _ => none) name (some m)

lemma mean_only {node : Node} {m : Meaning} (hm : node.Means m) (name : Text) :
    (Nodes.empty.put name node).Mean (only name m) :=
  Nodes.mean_empty.put hm name

lemma update_only (name : Text) (m m' : Meaning) : Function.update (only name m) name (some m') = only name m' :=
  Function.update_idem _ _ _

def outputOnly : Bindings := only "split" (.table (only "output" (.string "a")))

def dottedSource : Text := "split.output='a'"

def headedSource : Text := "#\n[split]\noutput=\"a\""

lemma describes_dotted : Describes .reader dottedSource outputOnly := by
  have hparts : Parts "split.output".toList ["split".toList, "output".toList] :=
    @Parts.more "split".toList "split".toList [] [] "output".toList _ (.bare (by decide) (by decide))
      (by decide) (by decide)
      (@Parts.last "output".toList "output".toList [] (.bare (by decide) (by decide)) (by decide))
  have hkey : DottedKey .reader "split.output".toList (["split".toList], "output".toList) :=
    ⟨hparts, (by decide : 2 < 80)⟩
  have hvalue : Value .reader 0 "'a'".toList (.string "a") := .quoted (@Quoted.literal "a".toList (by decide))
  have hassigns : Assigns ["split".toList] "output" (.string "a") Nodes.empty _ := .fresh rfl rfl (.here ⟨rfl⟩)
  exact ⟨_, .last (line_single hkey (by decide : 0 < 80) hvalue), _, .cons (.assign (.here hassigns)) .nil,
    mean_only (.table (mean_only (.value _) _)) _⟩

lemma describes_headed : Describes .reader headedSource outputOnly := by
  have hremark : Line .reader "#".toList [] :=
    @Line.blank .reader [] "#".toList (by decide) (@Remark.comment [] (by decide))
  have hheader : Line .reader "[split]".toList [.table [] "split"] :=
    @Line.table .reader [] [] "split".toList [] [] _ _ (by decide) (by decide)
      (key_single (by decide : 1 < 80) (by decide) (by decide)) (by decide) .none
  have hvalue : Value .reader 0 "\"a\"".toList (.string "a") :=
    .quoted (@Quoted.basic "a".toList _ (.plain rfl .nil))
  have hsetting : Line .reader ("output".toList ++ '=' :: "\"a\"".toList) [.assign [] "output" (.string "a")] :=
    line_single (key_single (by decide : 1 < 80) (by decide) (by decide)) (by decide : 0 < 80) hvalue
  have hopened : Does (.table [] "split") .empty ⟨Nodes.empty.put "split" (.table .declared Nodes.empty), ["split"]⟩ :=
    .table (.here (.fresh rfl))
  have hassigned : Does (.assign [] "output" (.string "a")) ⟨Nodes.empty.put "split" (.table .declared Nodes.empty),
      ["split"]⟩ _ := .assign (.table rfl trivial (fun _ => trivial) (.here (.here ⟨rfl⟩)))
  refine ⟨_, .more hremark .lineFeed (.more hheader .lineFeed (.last hsetting)), _,
    .cons hopened (.cons hassigned .nil), ?_⟩
  have hbefore : (Nodes.empty.put "split" (.table .declared Nodes.empty)).Mean (only "split" (.table fun _ => none)) :=
    mean_only (.table Nodes.mean_empty) _
  have hinner : Node.Means (.table .declared (Nodes.empty.put "output" (.value (.string "a"))))
      (.table (only "output" (.string "a"))) := .table (mean_only (.value _) _)
  have hafter := hbefore.put hinner "split"
  rwa [update_only] at hafter

theorem dotted_and_headed_read_alike : ∃ config, Config.parse dottedSource = .ok config ∧
    Config.parse headedSource = .ok config ∧ config.output ≠ none ∧ config.overwrite = none ∧ config.mode = none ∧
    config.extension = none := by
  have hs : Sectioned outputOnly := by
    rintro m ⟨⟩
    exact ⟨_, rfl⟩
  have hof : Config.Of { output := some "a" } (setting? outputOnly) := ⟨.some (.string _), .none, .none, .none⟩
  obtain ⟨config, -, hd, hh, ho, hw, hm, he⟩ | ⟨hnone, -⟩ :=
    config_determined_by_settings describes_dotted describes_headed hs hs fun _ _ => rfl
  · have hgiven : setting? outputOnly "output" ≠ none := Option.isSome_iff_ne_none.mp rfl
    exact ⟨config, hd, hh, fun h => hgiven (ho.mp h), hw.mpr rfl, hm.mpr rfl, he.mpr rfl⟩
  · exact absurd ⟨_, hof⟩ hnone

def nested : ℕ → Text
  | 0 => "[]"
  | n + 1 => '[' :: nested n ++ [']']

lemma value_nested (n : ℕ) : ∃ m, Value .none (n + 1) (nested n) m := by
  induction n with
  | zero => exact ⟨_, .inr (@Compound.emptyArray _ _ [] Reader.gap_nil)⟩
  | succ n ih =>
    obtain ⟨m, hm⟩ := ih
    have helements : Elements (Value .none (n + 1)) ([] ++ nested n ++ []) [m] :=
      .last Reader.gap_nil hm Reader.gap_nil
    rw [List.nil_append, List.append_nil] at helements
    exact ⟨_, .inr (.array helements)⟩

def chained : ℕ → Text
  | 0 => "x"
  | n + 1 => "x." ++ chained n

lemma parts_chained (n : ℕ) : Parts (chained n) (List.replicate (n + 1) "x") := by
  induction n with
  | zero => exact @Parts.last "x".toList "x".toList [] (.bare (by decide) (by decide)) (by decide)
  | succ n ih =>
    exact @Parts.more "x".toList "x".toList [] [] (chained n) _ (.bare (by decide) (by decide)) (by decide)
      (by decide) ih

lemma key_chained (n : ℕ) : DottedKey .none (chained n) (List.replicate n "x", "x") := by
  have hparts := parts_chained n
  rw [List.replicate_succ'] at hparts
  exact ⟨hparts, trivial⟩

lemma assigns_new (way : List Text) (key : Text) (m : Meaning) : ∃ t bindings, Assigns way key m Nodes.empty t ∧
    t.Mean bindings ∧ ∀ name, (way ++ [key]).head? ≠ some name → bindings name = none := by
  have honly : ∀ {first name : Text} {m : Meaning}, first ≠ name → only first m name = none :=
    fun hn => Function.update_of_ne hn.symm _ _
  induction way with
  | nil => exact ⟨_, _, .here ⟨rfl⟩, mean_only (.value m) key, fun name hn => honly (by simpa using hn)⟩
  | cons first way ih =>
    obtain ⟨t, bindings, ht, hm, -⟩ := ih
    exact ⟨_, _, .fresh rfl rfl ht, mean_only (.table hm) first, fun name hn => honly (by simpa using hn)⟩

def deepSource : Text := "x=" ++ nested 99

def chainedSource : Text := chained 99 ++ "=true"

def bigSource : Text := "x=9223372036854775808"

def hugeSource : Text := "x=1e400"

def Unsectioned (source : Text) : Prop := ∃ bindings, Describes .none source bindings ∧ bindings "split" = none

lemma unsectioned_single {k v : Text} {way : List Text} {key : Text} (hk : DottedKey .none k (way, key))
    (hsplit : (way ++ [key]).head? ≠ some "split".toList) (hv : ∃ depth m, Value .none depth v m) :
    Unsectioned (k ++ '=' :: v) := by
  obtain ⟨depth, m, hm⟩ := hv
  obtain ⟨t, bindings, ht, hmeans, hnone⟩ := assigns_new way key m
  exact ⟨bindings, ⟨_, .last (line_single hk trivial hm), _, .cons (.assign (.here ht)) .nil, hmeans⟩, hnone _ hsplit⟩

lemma unsectioned_x {v : Text} (hv : ∃ depth m, Value .none depth v m) : Unsectioned ("x=" ++ v) :=
  unsectioned_single (key_single trivial (by decide) (by decide) : DottedKey .none "x".toList _) (by decide) hv

lemma unsectioned_deep : Unsectioned deepSource := unsectioned_x ⟨100, value_nested 99⟩

lemma unsectioned_chained : Unsectioned chainedSource :=
  unsectioned_single (key_chained 99) (by decide) ⟨0, _, .yes⟩

lemma moreDigits_made {isMember : Char → Bool} {text : Text} (h : Made isMember text) :
    MoreDigits isMember text text := by
  induction text with
  | nil => exact .nil
  | cons c text ih =>
    exact .digit (h c List.mem_cons_self) (ih fun d hd => h d (List.mem_cons_of_mem _ hd))

lemma unsectioned_big : Unsectioned bigSource := by
  have hwhole : Whole "9223372036854775808".toList "9223372036854775808".toList :=
    .digits rfl (moreDigits_made (by decide))
  exact unsectioned_x ⟨0, _, .integer (.decimal .none hwhole) trivial⟩

lemma unsectioned_huge : Unsectioned hugeSource := by
  have hpower : Exponent "e400".toList _ :=
    @Exponent.mk 'e' [] "400".toList "400".toList _ (.inl rfl) .none (.mk rfl (moreDigits_made (by decide)))
  have hone : Whole "1".toList "1".toList := .digit rfl
  exact unsectioned_x ⟨0, _, .float (.scaled .none hone hpower) trivial⟩

theorem sources_beyond_limits_not_read : (Unsectioned [] ∧ Config.parse [] = .ok {}) ∧
    ∀ source ∈ [deepSource, chainedSource, bigSource, hugeSource],
      Unsectioned source ∧ ∃ error, Config.parse source = .error error := by
  have hempty : Spells .none [] [] := .last (@Line.blank .none [] [] (by decide) .none)
  have hfails : ∀ source ∈ [deepSource, chainedSource, bigSource, hugeSource],
      (Config.parse source).isOk = false := by decide +kernel
  have herror : ∀ source ∈ [deepSource, chainedSource, bigSource, hugeSource],
      ∃ error, Config.parse source = .error error := by
    intro source hsource
    have hf := hfails source hsource
    cases hp : Config.parse source with
    | error error => exact ⟨error, rfl⟩
    | ok config =>
      rw [hp] at hf
      cases hf
  refine ⟨⟨⟨_, ⟨_, hempty, _, .nil, Nodes.mean_empty⟩, rfl⟩, rfl⟩, fun source hsource => ⟨?_, herror source hsource⟩⟩
  revert source
  simpa only [List.forall_mem_cons] using
    ⟨unsectioned_deep, unsectioned_chained, unsectioned_big, unsectioned_huge, by simp⟩

end DeclSplit
