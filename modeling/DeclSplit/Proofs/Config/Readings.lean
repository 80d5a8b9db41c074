import DeclSplit.Config.Section
import DeclSplit.Proofs.Toml.Tables

/-! The settings of a section: what each gives is told by what it stands for, and nothing but the settings counts. -/

namespace DeclSplit

open Toml Rules

namespace Config

variable {entries : Entries} {item : Item} {m : Meaning} {bindings : Bindings}

inductive GivesText : Meaning → Text → Prop
  | string (value : Text) : GivesText (.string value) value

inductive GivesFlag : Meaning → Bool → Prop
  | boolean (value : Bool) : GivesFlag (.boolean value) value

inductive Bare : Meaning → Prop
  | array : Bare (.array [])
  | table {bindings : Bindings} : (∀ name, bindings name = none) → Bare (.table bindings)

inductive GivesMode : Meaning → MatchMode → Prop
  | string {value : Text} {mode : MatchMode} : MatchMode.ofSpelling? value = some mode →
      GivesMode (.string value) mode
  | table {bindings : Bindings} {name : Text} {m : Meaning} {mode : MatchMode} : bindings name = some m →
      (∀ other, other ≠ name → bindings other = none) → MatchMode.ofSpelling? name = some mode → Bare m →
      GivesMode (.table bindings) mode

lemma readText_ok (h : item.Means m) {value : Text} : readText item = .ok value ↔ GivesText m value := by
  constructor
  · intro hr
    cases h with
    | string =>
      cases hr
      exact .string _
    | _ => cases hr
  · rintro ⟨⟩
    cases h
    rfl

lemma readFlag_ok (h : item.Means m) {value : Bool} : readFlag item = .ok value ↔ GivesFlag m value := by
  constructor
  · intro hr
    cases h with
    | boolean =>
      cases hr
      exact .boolean _
    | _ => cases hr
  · rintro ⟨⟩
    cases h
    rfl

lemma mean_nil (h : Entries.Mean [] bindings) (name : Text) : bindings name = none := rel_none.mp (h.items name)

lemma nil_of_mean (h : entries.Mean bindings) (hn : ∀ name, bindings name = none) : entries = [] := by
  cases entries with
  | nil => rfl
  | cons e entries =>
    have hname := (eq_none_iff_of_rel (h.items e.1.name)).mp (hn _)
    simp [Entries.item?] at hname

lemma modeEntry_ok (h : item.Means m) : modeEntry item = .ok () ↔ Bare m := by
  constructor
  · intro hr
    cases h with
    | array hm | tables hm =>
      cases hm with
      | nil => exact .array
      | cons => cases hr
    | @table form entries span bindings hd hi =>
      cases entries with
      | nil => exact .table (mean_nil ⟨hd, hi⟩)
      | cons => cases hr
    | _ => cases hr
  · rintro (_ | hn)
    · cases h with
      | array hm | tables hm =>
        cases hm
        rfl
    · cases h with
      | table hd hi =>
        obtain rfl := nil_of_mean ⟨hd, hi⟩ hn
        rfl

lemma modeNamed_ok {name : Text} {span : Option Span} {mode : MatchMode} :
    modeNamed name span = .ok mode ↔ MatchMode.ofSpelling? name = some mode := by
  rw [modeNamed]
  cases MatchMode.ofSpelling? name <;> simp

lemma bind_ok {ε α β : Type} {x : Except ε α} {f : α → Except ε β} {b : β} (h : x >>= f = .ok b) :
    ∃ a, x = .ok a ∧ f a = .ok b := by
  cases x with
  | error e => cases h
  | ok a => exact ⟨a, rfl, h⟩

lemma readMode_table {form : TableForm} {span : Option Span} {mode : MatchMode} :
    readMode (.table form entries span) = .ok mode ↔
      ∃ key entry, entries = [(key, entry)] ∧ MatchMode.ofSpelling? key.name = some mode ∧
        modeEntry entry = .ok () := by
  match entries with
  | [] => simp [readMode]
  | [(key, entry)] =>
    simp only [readMode]
    constructor
    · intro h
      obtain ⟨named, hnamed, hrest⟩ := bind_ok h
      obtain ⟨_, hentry, hdone⟩ := bind_ok hrest
      cases hdone
      exact ⟨key, entry, rfl, modeNamed_ok.mp hnamed, hentry⟩
    · rintro ⟨_, _, ⟨⟩, hnamed, hentry⟩
      rw [modeNamed_ok.mpr hnamed, hentry]
      rfl
  | _ :: _ :: _ => simp [readMode]

lemma mean_single {key : Key} (h : Entries.Mean [(key, item)] bindings) :
    (∃ m, bindings key.name = some m ∧ item.Means m) ∧ ∀ other, other ≠ key.name → bindings other = none := by
  constructor
  · have hname := h.items key.name
    simpa only [Entries.item?, if_true, rel_some] using hname
  · intro other ho
    have hname := h.items other
    simpa only [Entries.item?, Ne.symm ho, if_false, rel_none] using hname

lemma single_of_mean {name : Text} (h : entries.Mean bindings) (hn : bindings name = some m)
    (ho : ∀ other, other ≠ name → bindings other = none) :
    ∃ key item, entries = [(key, item)] ∧ key.name = name ∧ item.Means m := by
  have hnames : ∀ other ∈ entries.names, other = name := by
    intro other hother
    by_contra hne
    have habsent : entries.item? other = none := (eq_none_iff_of_rel (h.items other)).mp (ho other hne)
    exact Entries.item?_eq_none.mp habsent hother
  have hgiven := h.items name
  rw [hn] at hgiven
  match entries with
  | [] => cases hgiven
  | [(key, item)] =>
    have hkey : key.name = name := hnames _ (by simp [Entries.names])
    simp only [Entries.item?, hkey, if_true] at hgiven
    cases hgiven with
    | some hm => exact ⟨key, item, rfl, hkey, hm⟩
  | (key, _) :: (key', _) :: _ =>
    have hd := h.distinct
    have hkey : key.name = name := hnames _ (by simp [Entries.names])
    have hkey' : key'.name = name := hnames _ (by simp [Entries.names])
    simp [Entries.names, hkey, hkey'] at hd

lemma readMode_ok (h : item.Means m) {mode : MatchMode} : readMode item = .ok mode ↔ GivesMode m mode := by
  constructor
  · intro hr
    cases h with
    | string value span => exact .string (modeNamed_ok.mp hr)
    | table hd hi =>
      obtain ⟨key, entry, rfl, hnamed, hentry⟩ := readMode_table.mp hr
      obtain ⟨⟨m, hn, hm⟩, hother⟩ := mean_single ⟨hd, hi⟩
      exact .table hn hother hnamed ((modeEntry_ok hm).mp hentry)
    | _ => cases hr
  · rintro (hnamed | ⟨hn, hother, hnamed, hbare⟩)
    · cases h
      exact modeNamed_ok.mpr hnamed
    · cases h with
      | table hd hi =>
        obtain ⟨key, entry, rfl, rfl, hm⟩ := single_of_mean ⟨hd, hi⟩ hn hother
        exact readMode_table.mpr ⟨key, entry, rfl, hnamed, (modeEntry_ok hm).mpr hbare⟩

def Given {α : Type} (read : Item → Read α) : Option Item → Option α → Option α → Prop
  | none, old, new => new = old
  | some item, _, new => ∃ value, read item = .ok value ∧ new = some value

lemma given_none {α : Type} {read : Item → Read α} {old new : Option α} : Given read none old new ↔ new = old := Iff.rfl

lemma given_some {α : Type} {read : Item → Read α} {old new : Option α} :
    Given read (some item) old new ↔ ∃ value, read item = .ok value ∧ new = some value :=
  Iff.rfl

structure Settled (setting? : Text → Option Item) (old new : Config) : Prop where
  output : Given readText (setting? "output") old.output new.output
  overwrite : Given readFlag (setting? "overwrite") old.overwrite new.overwrite
  mode : Given readMode (setting? "match") old.mode new.mode
  extension : Given readText (setting? "extension") old.extension new.extension

lemma atKey_ok {α : Type} {key : Key} {read : Read α} {value : α} : atKey key read = .ok value ↔ read = .ok value := by
  cases read <;> simp [atKey]

def step (config : Config) (e : Key × Item) : Read Config := atKey e.1 (config.setting e.1.name e.2)

lemma settled_nil {old new : Config} : Settled (fun _ => none) old new ↔ new = old := by
  constructor
  · rintro ⟨ho, hw, hm, he⟩
    cases old
    cases new
    simp_all [Given]
  · rintro rfl
    exact ⟨rfl, rfl, rfl, rfl⟩

lemma settled_iff {setting? : Text → Option Item} {old new : Config} : Settled setting? old new ↔
    Given readText (setting? "output") old.output new.output ∧
    Given readFlag (setting? "overwrite") old.overwrite new.overwrite ∧
    Given readMode (setting? "match") old.mode new.mode ∧
    Given readText (setting? "extension") old.extension new.extension :=
  ⟨fun h => ⟨h.output, h.overwrite, h.mode, h.extension⟩, fun ⟨ho, hw, hm, he⟩ => ⟨ho, hw, hm, he⟩⟩

lemma bind_pure_ok {α β : Type} {read : Read α} {f : α → β} {b : β} :
    (do return f (← read)) = Except.ok b ↔ ∃ a, read = .ok a ∧ f a = b := by
  cases read <;> simp [bind, Except.bind, pure, Except.pure]

lemma item?_cons {key : Key} {name : Text} : Entries.item? name ((key, item) :: entries) =
    if key.name = name then some item else entries.item? name :=
  rfl

lemma settled_cons {key : Key} {old new : Config} (hn : entries.item? key.name = none) :
    Settled (fun name => Entries.item? name ((key, item) :: entries)) old new ↔
      ∃ mid, old.setting key.name item = .ok mid ∧ Settled (fun name => entries.item? name) mid new := by
  have hnames : ["output".toList, "overwrite".toList, "match".toList, "extension".toList].Nodup := by decide
  simp only [settled_iff, item?_cons, setting]
  -- Which names they are does not matter, only that they differ.
  generalize "output".toList = output, "overwrite".toList = overwrite, "match".toList = mode,
    "extension".toList = extension at hnames ⊢
  simp only [List.nodup_cons, List.mem_cons, List.not_mem_nil, or_false, not_or] at hnames
  obtain ⟨⟨how, hom, hoe⟩, ⟨hwm, hwe⟩, hme, -⟩ := hnames
  generalize key.name = name at hn ⊢
  by_cases ho : name = output
  · subst ho
    simp only [if_true, if_false, how, hom, hoe, hn, given_none, given_some, bind_pure_ok]
    constructor
    · rintro ⟨⟨value, hv, ho⟩, hw, hm, he⟩
      exact ⟨_, ⟨value, hv, rfl⟩, ho, hw, hm, he⟩
    · rintro ⟨_, ⟨value, hv, rfl⟩, ho, hw, hm, he⟩
      exact ⟨⟨value, hv, ho⟩, hw, hm, he⟩
  by_cases hw : name = overwrite
  · subst hw
    simp only [if_true, if_false, ho, hwm, hwe, hn, given_none, given_some, bind_pure_ok]
    constructor
    · rintro ⟨ho, ⟨value, hv, hw⟩, hm, he⟩
      exact ⟨_, ⟨value, hv, rfl⟩, ho, hw, hm, he⟩
    · rintro ⟨_, ⟨value, hv, rfl⟩, ho, hw, hm, he⟩
      exact ⟨ho, ⟨value, hv, hw⟩, hm, he⟩
  by_cases hm : name = mode
  · subst hm
    simp only [if_true, if_false, ho, hw, hme, hn, given_none, given_some, bind_pure_ok]
    constructor
    · rintro ⟨ho, hw, ⟨value, hv, hm⟩, he⟩
      exact ⟨_, ⟨value, hv, rfl⟩, ho, hw, hm, he⟩
    · rintro ⟨_, ⟨value, hv, rfl⟩, ho, hw, hm, he⟩
      exact ⟨ho, hw, ⟨value, hv, hm⟩, he⟩
  by_cases he : name = extension
  · subst he
    simp only [if_true, if_false, ho, hw, hm, hn, given_none, given_some, bind_pure_ok]
    constructor
    · rintro ⟨ho, hw, hm, value, hv, he⟩
      exact ⟨_, ⟨value, hv, rfl⟩, ho, hw, hm, he⟩
    · rintro ⟨_, ⟨value, hv, rfl⟩, ho, hw, hm, he⟩
      exact ⟨ho, hw, hm, value, hv, he⟩
  · simp [ho, hw, hm, he]

lemma foldlM_ok {old new : Config} (hd : (entries.map fun e => e.1.name).Nodup) :
    entries.foldlM step old = .ok new ↔ Settled (fun name => entries.item? name) old new := by
  induction entries generalizing old with
  | nil =>
    rw [show (fun name => Entries.item? name []) = fun _ => none from rfl, settled_nil]
    simp [eq_comm, pure, Except.pure]
  | cons e entries ih =>
    obtain ⟨key, item⟩ := e
    rw [List.map_cons, List.nodup_cons] at hd
    have hn : Entries.item? key.name entries = none := Entries.item?_eq_none.mpr hd.1
    rw [List.foldlM_cons, settled_cons hn]
    constructor
    · intro h
      obtain ⟨mid, hmid, hrest⟩ := bind_ok h
      exact ⟨mid, atKey_ok.mp hmid, (ih hd.2).mp hrest⟩
    · rintro ⟨mid, hmid, hrest⟩
      have hstep : step old (key, item) = .ok mid := atKey_ok.mpr hmid
      rw [hstep]
      exact (ih hd.2).mpr hrest

lemma given_iff {α : Type} {read : Item → Read α} {gives : Meaning → α → Prop}
    (hr : ∀ {item m}, item.Means m → ∀ {value}, read item = .ok value ↔ gives m value) {given : Option Item}
    {meant : Option Meaning} (h : Option.Rel Item.Means given meant) {new : Option α} :
    Given read given none new ↔ Option.Rel gives meant new := by
  cases h with
  | none =>
    rw [given_none]
    constructor
    · rintro rfl
      exact .none
    · rintro ⟨⟩
      rfl
  | some hm =>
    rw [given_some]
    constructor
    · rintro ⟨value, hv, rfl⟩
      exact .some ((hr hm).mp hv)
    · rintro (hv | _)
      exact ⟨_, (hr hm).mpr hv, rfl⟩

/-- What the four settings give, and nothing where one is absent. -/
structure Of (config : Config) (bindings : Bindings) : Prop where
  output : Option.Rel GivesText (bindings "output") config.output
  overwrite : Option.Rel GivesFlag (bindings "overwrite") config.overwrite
  mode : Option.Rel GivesMode (bindings "match") config.mode
  extension : Option.Rel GivesText (bindings "extension") config.extension

theorem ofEntries_ok {config : Config} (h : entries.Mean bindings) :
    ofEntries entries = .ok config ↔ config.Of bindings := by
  have hfold : ofEntries entries = entries.foldlM step {} := rfl
  rw [hfold, foldlM_ok h.distinct, settled_iff, given_iff readText_ok (h.items _), given_iff readFlag_ok (h.items _),
    given_iff readMode_ok (h.items _), given_iff readText_ok (h.items _)]
  exact ⟨fun ⟨ho, hw, hm, he⟩ => ⟨ho, hw, hm, he⟩, fun ⟨ho, hw, hm, he⟩ => ⟨ho, hw, hm, he⟩⟩

end Config

end DeclSplit
