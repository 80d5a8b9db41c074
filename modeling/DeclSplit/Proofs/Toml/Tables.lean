import DeclSplit.Proofs.Toml.Meaning
import DeclSplit.Toml.Document
import Mathlib.Data.List.Forall2

/-! The tables of a document grow as the rules say: where a directive makes one document of another, the operation
on the tables succeeds and makes what shows the one of what shows the other. -/

namespace DeclSplit.Toml

open Rules

def Entries.names (entries : Entries) : List Text := entries.map fun e => e.1.name

inductive Item.Means : Item → Meaning → Prop
  | string (value : Text) (span : Span) : Means (.string value span) (.string value)
  | integer (value : ℤ) (span : Span) : Means (.integer value span) (.integer value)
  | float (value : Float64) (span : Span) : Means (.float value span) (.float value)
  | boolean (value : Bool) (span : Span) : Means (.boolean value span) (.boolean value)
  | moment (span : Span) : Means (.moment span) .moment
  | array {items : List Item} {ms : List Meaning} {span : Span} : List.Forall₂ Means items ms →
      Means (.array items span) (.array ms)
  | tables {items : List Item} {ms : List Meaning} : List.Forall₂ Means items ms → Means (.tables items) (.array ms)
  | table {form : TableForm} {entries : List (Key × Item)} {span : Option Span} {bindings : Bindings} :
      (Entries.names entries).Nodup → (∀ name, Option.Rel Means (Entries.item? name entries) (bindings name)) →
      Means (.table form entries span) (.table bindings)

structure Entries.Mean (entries : Entries) (bindings : Bindings) : Prop where
  distinct : entries.names.Nodup
  items : ∀ name, Option.Rel Item.Means (entries.item? name) (bindings name)

def Rules.Origin.tableForm (made : TableForm) : Origin → TableForm
  | .declared => .declared
  | .passed => .passed
  | .dotted => made

inductive Item.Shows (made : TableForm) : Item → Node → Prop
  | value {item : Item} {m : Meaning} : item.Means m → Shows made item (.value m)
  | table {own : TableForm} {origin : Origin} {entries : List (Key × Item)} {span : Option Span} {t : Nodes} :
      own = origin.tableForm made → (Entries.names entries).Nodup →
      (∀ name, Entries.item? name entries = none ↔ t name = none) →
      (∀ name item node, Entries.item? name entries = some item → t name = some node → Shows made item node) →
      Shows made (.table own entries span) (.table origin t)
  | tables {items : List Item} {earlier : List Meaning} {entries : List (Key × Item)} {span : Option Span}
      {t : Nodes} : List.Forall₂ Item.Means items earlier → (Entries.names entries).Nodup →
      (∀ name, Entries.item? name entries = none ↔ t name = none) →
      (∀ name item node, Entries.item? name entries = some item → t name = some node → Shows made item node) →
      Shows made (.tables (items ++ [.table .declared entries span])) (.tables earlier t)

structure Entries.Shows (made : TableForm) (entries : Entries) (t : Nodes) : Prop where
  distinct : entries.names.Nodup
  absent : ∀ name, entries.item? name = none ↔ t name = none
  present : ∀ name item node, entries.item? name = some item → t name = some node → item.Shows made node

section Shows

variable {made : TableForm} {item item' : Item} {node : Node} {m : Meaning} {entries : Entries} {t t' : Nodes}
  {bindings : Bindings}

lemma mean_of_present (hd : entries.names.Nodup) (ha : ∀ name, entries.item? name = none ↔ t name = none)
    (hp : ∀ name item node m, entries.item? name = some item → t name = some node → node.Means m → item.Means m)
    (hm : t.Mean bindings) : entries.Mean bindings := by
  refine ⟨hd, fun name => ?_⟩
  have hname := hm name
  cases hn : t name with
  | none =>
    rw [hn, rel_none] at hname
    rw [(ha name).mpr hn, hname]
    exact .none
  | some node =>
    obtain ⟨m, hbound, hmeans⟩ := rel_some.mp (hn ▸ hname)
    cases hi : entries.item? name with
    | none =>
      rw [(ha name).mp hi] at hn
      cases hn
    | some item => exact rel_some.mpr ⟨m, hbound, hp name item node m hi hn hmeans⟩

lemma Item.Shows.means (h : item.Shows made node) (hm : node.Means m) : item.Means m := by
  induction h generalizing m with
  | value hi =>
    cases hm
    exact hi
  | table hf hd ha _ ih =>
    cases hm with
    | table hc =>
      obtain ⟨hd, hi⟩ := mean_of_present hd ha (fun name item node m hi hn => ih name item node hi hn) hc
      exact .table hd hi
  | tables he hd ha _ ih =>
    cases hm with
    | tables hc =>
      obtain ⟨hd, hi⟩ := mean_of_present hd ha (fun name item node m hi hn => ih name item node hi hn) hc
      exact .tables (List.rel_append he (.cons (.table hd hi) .nil))

lemma Entries.Shows.mean (h : entries.Shows made t) (hm : t.Mean bindings) : entries.Mean bindings :=
  mean_of_present h.distinct h.absent (fun name item node _ hi hn => (h.present name item node hi hn).means) hm

lemma Entries.Shows.table (h : entries.Shows made t) {own : TableForm} {origin : Origin}
    (hf : own = origin.tableForm made) (span : Option Span) : (Item.table own entries span).Shows made (.table origin t) :=
  .table hf h.distinct h.absent h.present

lemma Entries.Shows.declared (h : entries.Shows made t) (span : Option Span) :
    (Item.table .declared entries span).Shows made (.table .declared t) :=
  .table rfl h.distinct h.absent h.present

lemma Entries.Shows.tables (h : entries.Shows made t) {items : List Item} {earlier : List Meaning}
    (he : List.Forall₂ Item.Means items earlier) (span : Option Span) :
    (Item.tables (items ++ [.table .declared entries span])).Shows made (.tables earlier t) :=
  .tables he h.distinct h.absent h.present

lemma Entries.Shows.nil : Entries.Shows made [] Nodes.empty :=
  ⟨List.nodup_nil, fun _ => ⟨fun _ => rfl, fun _ => rfl⟩, fun _ _ _ h => by cases h⟩

lemma Entries.Shows.found (h : entries.Shows made t) {name : Text} (hn : t name = some node) :
    ∃ item, entries.item? name = some item ∧ item.Shows made node := by
  cases hi : entries.item? name with
  | none =>
    rw [(h.absent name).mp hi] at hn
    cases hn
  | some item => exact ⟨item, rfl, h.present name item node hi hn⟩

def entering (grow : TableForm → Entries → Except Cause Entries) (move : Option Span → Option Span) :
    TableForm → Entries → Option Span → Except Cause Item :=
  fun form inner span => do return .table form (← grow form inner) (move span)

variable {grow : TableForm → Entries → Except Cause Entries} {move : Option Span → Option Span}

lemma onTable_table {origin : Origin} (hi : item.Shows made (.table origin t))
    (hg : ∀ entries, entries.Shows made t →
      ∃ entries', grow (origin.tableForm made) entries = .ok entries' ∧ entries'.Shows made t') :
    ∃ item', item.onTable (entering grow move) = .ok item' ∧ item'.Shows made (.table origin t') := by
  cases hi with
  | @table own _ entries span _ hf hd ha hp =>
    obtain ⟨entries', hgrow, hs⟩ := hg entries ⟨hd, ha, hp⟩
    refine ⟨.table own entries' (move span), ?_, hs.table hf _⟩
    rw [Item.onTable, entering, hf, hgrow]
    rfl

lemma onTable_last {earlier : List Meaning} (hi : item.Shows made (.tables earlier t))
    (hg : ∀ entries, entries.Shows made t →
      ∃ entries', grow .declared entries = .ok entries' ∧ entries'.Shows made t') :
    ∃ item', item.onTable (entering grow move) = .ok item' ∧ item'.Shows made (.tables earlier t') := by
  cases hi with
  | @tables items _ entries span _ he hd ha hp =>
    obtain ⟨entries', hgrow, hs⟩ := hg entries ⟨hd, ha, hp⟩
    refine ⟨.tables (items ++ [.table .declared entries' (move span)]), ?_, hs.tables he _⟩
    simp only [Item.onTable, List.reverse_append, List.reverse_singleton, List.singleton_append, entering, hgrow]
    simp [bind, Except.bind, pure, Except.pure]

end Shows

namespace Entries

variable {made missing : TableForm} {entries entries' : Entries} {key : Key} {name : Text} {fresh item item' : Item}
  {node : Node} {change : Item → Except Cause Item} {t t' : Nodes}

lemma item?_eq_none : entries.item? name = none ↔ name ∉ entries.names := by
  induction entries with
  | nil => simp [item?, names]
  | cons e entries ih =>
    obtain ⟨key, item⟩ := e
    rw [names, List.map_cons, List.mem_cons, not_or, ← names, ← ih]
    by_cases h : key.name = name
    · simp [item?, h]
    · simp [item?, h, Ne.symm h]

structure Put (entries : Entries) (name : Text) (item : Item) (entries' : Entries) : Prop where
  items : ∀ other, entries'.item? other = if other = name then some item else entries.item? other
  distinct : entries.names.Nodup → entries'.names.Nodup

lemma Put.shows (h : Put entries name item entries') (hs : entries.Shows made t) (hi : item.Shows made node) :
    entries'.Shows made (t.put name node) := by
  refine ⟨h.distinct hs.distinct, fun other => ?_, fun other item' node' hitem hnode => ?_⟩
  · by_cases hn : other = name
    · simp [h.items, Nodes.put, hn]
    · simp [h.items, Nodes.put, hn, hs.absent]
  · rw [h.items] at hitem
    by_cases hn : other = name
    · simp only [Nodes.put, hn, Function.update_self, if_true, Option.some.injEq] at hitem hnode
      exact hitem ▸ hnode ▸ hi
    · simp only [Nodes.put, hn, Function.update_of_ne, if_false, ne_eq, not_false_eq_true] at hitem hnode
      exact hs.present other item' node' hitem hnode

lemma put_append (hn : entries.item? key.name = none) (item : Item) :
    Put entries key.name item (entries ++ [(key, item)]) := by
  constructor
  · intro other
    induction entries with
    | nil => simp [item?, eq_comm]
    | cons e entries ih =>
      obtain ⟨first, old⟩ := e
      simp only [item?] at hn
      split_ifs at hn with hf
      by_cases ho : first.name = other
      · subst ho
        simp [item?, hf]
      · simp [item?, ho, ih hn]
  · intro hd
    rw [names, List.map_append, List.map_singleton, List.nodup_append]
    refine ⟨hd, by simp, ?_⟩
    rintro other hother _ hlast rfl
    rw [List.mem_singleton] at hlast
    exact item?_eq_none.mp hn (hlast ▸ hother)

lemma Put.cons {first : Key} (h : Put entries name item entries') (hn : first.name ≠ name) (old : Item) :
    Put ((first, old) :: entries) name item ((first, old) :: entries') := by
  constructor
  · intro other
    by_cases ho : first.name = other
    · subst ho
      simp [item?, hn]
    · simp [item?, ho, h.items]
  · intro hd
    rw [names, List.map_cons, List.nodup_cons] at hd ⊢
    refine ⟨?_, h.distinct hd.2⟩
    have hfirst : entries.item? first.name = none := item?_eq_none.mpr hd.1
    have hnone : entries'.item? first.name = none := by rw [h.items, if_neg hn, hfirst]
    exact item?_eq_none.mp hnone

lemma put_head (hn : key.name = name) (old item : Item) :
    Put ((key, old) :: entries) name item ((key, item) :: entries) := by
  refine ⟨fun other => ?_, id⟩
  subst hn
  by_cases ho : other = key.name
  · simp [item?, ho]
  · simp [item?, ho, Ne.symm ho]

lemma alter_ok (h : change ((entries.item? key.name).getD fresh) = .ok item) :
    ∃ entries', entries.alter key fresh change = .ok entries' ∧ Put entries key.name item entries' := by
  induction entries with
  | nil =>
    have hfresh : change fresh = .ok item := h
    refine ⟨[(key, item)], ?_, put_append rfl item⟩
    rw [alter, hfresh]
    rfl
  | cons e entries ih =>
    obtain ⟨first, old⟩ := e
    by_cases hn : first.name = key.name
    · have hold : change old = .ok item := by simpa [item?, hn] using h
      refine ⟨(first, item) :: entries, ?_, put_head hn old item⟩
      rw [alter, if_pos hn, hold]
      rfl
    · obtain ⟨entries', halter, hput⟩ := ih (by simpa [item?, hn] using h)
      refine ⟨(first, old) :: entries', ?_, hput.cons hn old⟩
      rw [alter, if_neg hn, halter]
      rfl

lemma alter_shows (hs : entries.Shows made t)
    (h : ∃ item', change ((entries.item? key.name).getD fresh) = .ok item' ∧ item'.Shows made node) :
    ∃ entries', entries.alter key fresh change = .ok entries' ∧ entries'.Shows made (t.put key.name node) := by
  obtain ⟨item', hchange, hi⟩ := h
  obtain ⟨entries', halter, hput⟩ := alter_ok hchange
  exact ⟨entries', halter, hput.shows hs hi⟩

lemma append_shows (hs : entries.Shows made t) (hn : t key.name = none) (hi : item.Shows made node) :
    (entries ++ [(key, item)]).Shows made (t.put key.name node) :=
  (put_append ((hs.absent _).mpr hn) item).shows hs hi

structure Admits (made missing : TableForm) (going : Going) (Grows : TableForm → Prop) : Prop where
  into : ∀ origin : Origin, going.into origin → ¬ ((origin.tableForm made).isInline && !missing.isInline) = true ∧
    ¬ (missing.isDotted && !(origin.tableForm made).isOpen) = true
  ends : ∀ origin : Origin, going.ends origin → Grows (origin.tableForm made)
  last : going.last → Grows .declared
  makes : ∀ origin : Origin, going.makes = some origin → origin.tableForm made = missing ∧
    ¬ (missing.isDotted && !missing.isOpen) = true ∧ Grows missing

def Follows (made : TableForm) (Grows : TableForm → Prop) (rule : Nodes → Nodes → Prop)
    (grow : TableForm → Entries → Except Cause Entries) : Prop :=
  ∀ form entries t t', Grows form → entries.Shows made t → rule t t' →
    ∃ entries', grow form entries = .ok entries' ∧ entries'.Shows made t'

variable {going : Going} {Grows : TableForm → Prop} {rule : Nodes → Nodes → Prop}
  {grow : TableForm → Entries → Except Cause Entries}

lemma descend_shows (ha : Admits made missing going Grows) (hf : Follows made Grows rule grow) {form : TableForm}
    {gone : List Text} {way : List Key} (hs : entries.Shows made t) (h : Goes going rule (way.map Key.name) t t')
    (hform : way = [] → Grows form) :
    ∃ entries', descend missing grow form gone way entries = .ok entries' ∧ entries'.Shows made t' := by
  induction way generalizing form gone entries t t' with
  | nil =>
    cases h with
    | here hr => exact hf form entries t t' (hform rfl) hs hr
  | cons key way ih =>
    rw [descend]
    have hnext : ∀ {form inner t t'}, (way = [] → Grows form) → Entries.Shows made inner t →
        Goes going rule (way.map Key.name) t t' →
        ∃ inner', descend missing grow form (gone ++ [key.name]) way inner = .ok inner' ∧ Shows made inner' t' :=
      fun hgrows he hg => ih he hg hgrows
    cases h with
    | @table _ inner inner' _ _ origin hn hinto hends hg =>
      refine alter_shows hs ?_
      obtain ⟨item, hitem, hi⟩ := hs.found hn
      obtain ⟨hinline, hopen⟩ := ha.into origin hinto
      have hgrows : way = [] → Grows (origin.tableForm made) := fun hw => ha.ends origin (hends (by simp [hw]))
      obtain ⟨item', htable, hi'⟩ : ∃ item', item.onTable (entering (fun form inner =>
          descend missing grow form (gone ++ [key.name]) way inner) id) = .ok item' ∧
          item'.Shows made (.table origin inner') := onTable_table hi fun entries he => hnext hgrows he hg
      refine ⟨item', ?_, hi'⟩
      rw [hitem, Option.getD_some]
      cases hi with
      | table hown =>
        subst hown
        simp only [hinline, hopen]
        exact htable
    | @last _ inner inner' _ _ earlier hn hlast hg =>
      refine alter_shows hs ?_
      obtain ⟨item, hitem, hi⟩ := hs.found hn
      obtain ⟨item', htable, hi'⟩ : ∃ item', item.onTable (entering (fun form inner =>
          descend missing grow form (gone ++ [key.name]) way inner) id) = .ok item' ∧
          item'.Shows made (.tables earlier inner') :=
        onTable_last hi fun entries he => hnext (fun _ => ha.last hlast) he hg
      refine ⟨item', ?_, hi'⟩
      rw [hitem, Option.getD_some]
      cases hi
      exact htable
    | @fresh _ inner _ _ origin hn hmakes hg =>
      refine alter_shows hs ?_
      obtain ⟨hown, hopen, hgrows⟩ := ha.makes origin hmakes
      obtain ⟨entries', hgrow, he⟩ := hnext (fun _ => hgrows) Shows.nil hg
      refine ⟨.table missing entries' none, ?_, he.table hown.symm none⟩
      rw [(hs.absent _).mpr hn, Option.getD_none]
      have hinline : ¬ (missing.isInline && !missing.isInline) = true := by simp
      simp only [hinline, hopen, Item.onTable, hgrow]
      rfl

lemma admits_dotted (hm : made.isDotted = true) : Admits made made .dotted (·.isDotted = true) := by
  have hopen : made.isOpen = true := by cases made <;> first | rfl | cases hm
  constructor
  · rintro (_ | _ | _) ho
    · exact absurd rfl ho
    · exact ⟨by simp [Origin.tableForm, TableForm.isInline], by simp [Origin.tableForm, TableForm.isOpen]⟩
    · exact ⟨by simp [Origin.tableForm], by simp [Origin.tableForm, hopen]⟩
  · rintro origin rfl
    exact hm
  · rintro ⟨⟩
  · rintro origin ⟨⟩
    exact ⟨rfl, by simp [hopen], hm⟩

lemma admits_header : Admits .dotted .passed .header fun _ => True := by
  constructor
  · rintro (_ | _ | _) - <;> exact ⟨by decide, by decide⟩
  · exact fun _ _ => trivial
  · exact fun _ => trivial
  · rintro origin ⟨⟩
    exact ⟨rfl, by decide, trivial⟩

lemma assign_shows {table : Option (List Text)} {form : TableForm} {way : List Key} {m : Meaning}
    (hmade : made.isDotted = true) (hform : form.isDotted = false) (hs : entries.Shows made t) (hi : item.Means m)
    (h : Assigns (way.map Key.name) key.name m t t') :
    ∃ entries', assign made table form way key item entries = .ok entries' ∧ entries'.Shows made t' := by
  cases way with
  | nil =>
    obtain ⟨⟨hn⟩⟩ := h
    refine ⟨entries ++ [(key, item)], ?_, append_shows hs hn (.value hi)⟩
    simp [assign, descend, hform, (hs.absent _).mpr hn]
  | cons first way =>
    refine descend_shows (admits_dotted hmade) ?_ hs h (by simp)
    rintro own inner t _ hown hs ⟨hn⟩
    refine ⟨inner ++ [(key, item)], ?_, append_shows hs hn (.value hi)⟩
    simp [hown, (hs.absent _).mpr hn]

lemma item?_remove {other : Text} (hn : other ≠ name) : (entries.remove name).item? other = entries.item? other := by
  induction entries with
  | nil => rfl
  | cons e entries ih =>
    obtain ⟨first, old⟩ := e
    by_cases hf : first.name = name
    · simpa [remove, hf, item?, Ne.symm hn] using ih
    · by_cases ho : first.name = other
      · rw [remove, List.filter_cons_of_pos (by simp [hf])]
        simp [item?, ho]
      · simpa [remove, hf, item?, ho] using ih

lemma put_remove (item : Item) : Put entries key.name item (entries.remove key.name ++ [(key, item)]) := by
  have hnone : (entries.remove key.name).item? key.name = none := item?_eq_none.mpr (by simp [names, remove])
  obtain ⟨hitems, hdistinct⟩ := put_append hnone item
  refine ⟨fun other => ?_, fun hd => hdistinct (hd.sublist (List.filter_sublist.map _))⟩
  rw [hitems]
  split_ifs with hn
  · rfl
  · exact item?_remove hn

lemma openTable_shows {way : List Key} (span : Span) (hs : entries.Shows .dotted t)
    (h : Goes .header (Opens key.name) (way.map Key.name) t t') :
    ∃ entries', openTable way key span entries = .ok entries' ∧ entries'.Shows .dotted t' := by
  refine descend_shows admits_header ?_ hs h fun _ => trivial
  rintro form inner t _ - hs (hn | hn)
  · refine ⟨inner ++ [(key, .table .declared [] (some span))], ?_, append_shows hs hn (Shows.nil.declared _)⟩
    simp [(hs.absent _).mpr hn]
  · obtain ⟨item, hitem, hi⟩ := hs.found hn
    cases hi with
    | @table own _ passed place _ hown hd ha hp =>
      subst hown
      refine ⟨_, ?_, (put_remove _).shows hs (Shows.declared ⟨hd, ha, hp⟩ (some span))⟩
      simp only [hitem]
      rfl

lemma openElement_shows {way : List Key} (span : Span) (hs : entries.Shows .dotted t)
    (h : Goes .header (Extends key.name) (way.map Key.name) t t') :
    ∃ entries', openElement way key span entries = .ok entries' ∧ entries'.Shows .dotted t' := by
  refine descend_shows admits_header ?_ hs h fun _ => trivial
  rintro form inner t _ - hs (hn | ⟨hn, hc⟩)
  · refine alter_shows hs ⟨_, ?_, Shows.nil.tables .nil (some span)⟩
    rw [(hs.absent _).mpr hn]
    rfl
  · obtain ⟨item, hitem, hi⟩ := hs.found hn
    cases hi with
    | @tables items earlier last place _ he hd ha hp =>
      obtain ⟨hdistinct, hitems⟩ := Entries.Shows.mean ⟨hd, ha, hp⟩ hc
      have hmeans : Item.Means (.table .declared last place) (.table _) := .table hdistinct hitems
      refine alter_shows hs ⟨_, ?_, Shows.nil.tables (List.rel_append he (.cons hmeans .nil)) (some span)⟩
      rw [hitem]
      rfl

def atName (name : Text) (change : Item → Except Cause Item) : Key × Item → Except Cause (Key × Item) :=
  fun (key, item) => do
    if key.name = name then return (key, ← change item)
    else return (key, item)

lemma mapM_absent (h : entries.item? name = none) : entries.mapM (atName name change) = .ok entries := by
  induction entries with
  | nil => rfl
  | cons e entries ih =>
    obtain ⟨first, old⟩ := e
    simp only [item?] at h
    split_ifs at h with hn
    rw [List.mapM_cons, ih h, atName, if_neg hn]
    rfl

lemma mapM_ok (hd : entries.names.Nodup) (hi : entries.item? name = some item) (hc : change item = .ok item') :
    ∃ entries', entries.mapM (atName name change) = .ok entries' ∧ Put entries name item' entries' := by
  induction entries with
  | nil => cases hi
  | cons e entries ih =>
    obtain ⟨first, old⟩ := e
    rw [names, List.map_cons, List.nodup_cons] at hd
    by_cases hn : first.name = name
    · obtain rfl : old = item := by simpa [item?, hn] using hi
      have habsent : item? name entries = none := item?_eq_none.mpr (hn ▸ hd.1)
      refine ⟨(first, item') :: entries, ?_, put_head hn old item'⟩
      rw [List.mapM_cons, mapM_absent habsent, atName, if_pos hn, hc]
      rfl
    · obtain ⟨entries', hm, hput⟩ := ih hd.2 (by simpa [item?, hn] using hi)
      refine ⟨(first, old) :: entries', ?_, hput.cons hn old⟩
      rw [List.mapM_cons, hm, atName, if_neg hn]
      rfl

def stepInto (stop : ℕ) (change : Entries → Except Cause Entries) (way : List Text) : Item → Except Cause Item :=
  Item.onTable (entering (fun _ inner => inSection stop change way inner)
    (Option.map fun span => if way.isEmpty then ⟨span.start, stop⟩ else span))

lemma inSection_shows (stop : ℕ) {change : Entries → Except Cause Entries} {way : List Text}
    (hc : Follows made (fun _ => True) rule fun _ => change) (hs : entries.Shows made t)
    (h : Goes .section_ rule way t t') :
    ∃ entries', inSection stop change way entries = .ok entries' ∧ entries'.Shows made t' := by
  induction h generalizing entries with
  | here hr => exact hc made entries _ _ trivial hs hr
  | @table t inner inner' name way origin hn _ _ _ ih =>
    obtain ⟨item, hitem, hi⟩ := hs.found hn
    obtain ⟨item', hstep, hi'⟩ : ∃ item', stepInto stop change way item = .ok item' ∧
        item'.Shows made (.table origin inner') := onTable_table hi fun entries he => ih he
    obtain ⟨entries', hm, hput⟩ := mapM_ok hs.distinct hitem hstep
    exact ⟨entries', hm, hput.shows hs hi'⟩
  | @last t inner inner' name way earlier hn _ _ ih =>
    obtain ⟨item, hitem, hi⟩ := hs.found hn
    obtain ⟨item', hstep, hi'⟩ : ∃ item', stepInto stop change way item = .ok item' ∧
        item'.Shows made (.tables earlier inner') := onTable_last hi fun entries he => ih he
    obtain ⟨entries', hm, hput⟩ := mapM_ok hs.distinct hitem hstep
    exact ⟨entries', hm, hput.shows hs hi'⟩
  | fresh _ hmakes => cases hmakes

end Entries

inductive PairMeans : (List Key × Key) × Item → (List Text × Text) × Meaning → Prop
  | mk {way : List Key} {key : Key} {item : Item} {m : Meaning} : item.Means m →
      PairMeans ((way, key), item) ((way.map Key.name, key.name), m)

lemma gathers_shows {read : List ((List Key × Key) × Item)} {pairs : List ((List Text × Text) × Meaning)}
    {entries : Entries} {t t' : Nodes} (hr : List.Forall₂ PairMeans read pairs)
    (hs : entries.Shows .inlineDotted t) (h : Gathers pairs t t') :
    ∃ entries', read.foldlM (fun entries ((way, key), item) =>
      Entries.assign .inlineDotted none .inline way key item entries) entries = .ok entries' ∧
      entries'.Shows .inlineDotted t' := by
  induction hr generalizing entries t with
  | nil =>
    cases h
    exact ⟨entries, rfl, hs⟩
  | @cons pair _ read pairs hp _ ih =>
    cases hp with
    | @mk way key item m hi =>
      cases h with
      | @cons _ _ _ _ _ t' _ ha hrest =>
        obtain ⟨next, hassign, hnext⟩ : ∃ next,
            Entries.assign .inlineDotted none .inline way key item entries = .ok next ∧
            next.Shows .inlineDotted t' := Entries.assign_shows rfl rfl hs hi ha
        obtain ⟨entries', hfold, hs'⟩ := ih hnext hrest
        refine ⟨entries', ?_, hs'⟩
        rw [List.foldlM_cons]
        simp only [hassign]
        exact hfold

structure Document.Shows (doc : Document) (draft : Draft) : Prop where
  entries : doc.entries.Shows .dotted draft.names
  opened : doc.section_ = draft.section_

lemma Document.shows_empty : Document.empty.Shows Draft.empty := ⟨.nil, rfl⟩

variable {doc : Document} {draft draft' : Draft} {way : List Key} {key : Key} {item : Item} {m : Meaning}

lemma document_assign_shows (hs : doc.Shows draft) (hi : item.Means m)
    (h : Does (.assign (way.map Key.name) key.name m) draft draft') :
    ∃ doc', doc.assign way key item = .ok doc' ∧ doc'.Shows draft' := by
  obtain ⟨hs, hopened⟩ := hs
  cases h with
  | assign h =>
    dsimp only at hs hopened
    subst hopened
    have hfollows : Entries.Follows .dotted (fun _ => True) (Assigns (way.map Key.name) key.name m)
        (fun _ => Entries.assign .dotted (some doc.section_) .declared way key item) :=
      fun _ _ _ _ _ he ha => Entries.assign_shows rfl rfl he hi ha
    obtain ⟨entries', hassign, hs'⟩ := Entries.inSection_shows ((item.span?.map Span.stop).getD 0) hfollows hs h
    refine ⟨⟨entries', doc.section_⟩, ?_, hs', rfl⟩
    rw [Document.assign, hassign]
    rfl

lemma document_openTable_shows (span : Span) (hs : doc.Shows draft)
    (h : Does (.table (way.map Key.name) key.name) draft draft') :
    ∃ doc', doc.openTable way key span = .ok doc' ∧ doc'.Shows draft' := by
  cases h with
  | table h =>
    obtain ⟨entries', hopen, hs'⟩ := Entries.openTable_shows span hs.entries h
    refine ⟨⟨entries', (way ++ [key]).map Key.name⟩, ?_, hs', by simp⟩
    rw [Document.openTable, hopen]
    rfl

lemma document_openElement_shows (span : Span) (hs : doc.Shows draft)
    (h : Does (.element (way.map Key.name) key.name) draft draft') :
    ∃ doc', doc.openElement way key span = .ok doc' ∧ doc'.Shows draft' := by
  cases h with
  | element h =>
    obtain ⟨entries', hopen, hs'⟩ := Entries.openElement_shows span hs.entries h
    refine ⟨⟨entries', (way ++ [key]).map Key.name⟩, ?_, hs', by simp⟩
    rw [Document.openElement, hopen]
    rfl

end DeclSplit.Toml
