import DeclSplit.Text.Basic
import DeclSplit.Toml.Number
import Mathlib.Data.Int.Notation
import Mathlib.Logic.Function.Basic

/-! What configuration texts stand for, by the rules of the format: the values, and what directives make of tables
one after the other.  How tables are kept, and where their entries stand in a text, is not told. -/

namespace DeclSplit.Toml.Rules

/-- Tables bind names, in no order.  Which moment a date names does not matter. -/
inductive Meaning
  | string (value : Text)
  | integer (value : ℤ)
  | float (value : Float64)
  | boolean (value : Bool)
  | moment
  | array (elements : List Meaning)
  | table (bindings : Text → Option Meaning)

abbrev Bindings := Text → Option Meaning

/-- A table comes about by a header of its own, on the way of another header, or by dotted keys. -/
inductive Origin
  | declared
  | passed
  | dotted

/-- What a name stands for in a document that may go on: the value of a key, to which nothing can be added, a
table, or an array of tables, of which only the last can grow. -/
inductive Node
  | value (m : Meaning)
  | table (origin : Origin) (names : Text → Option Node)
  | tables (earlier : List Meaning) (names : Text → Option Node)

abbrev Nodes := Text → Option Node

def Nodes.empty : Nodes := fun _ => none

def Nodes.put (t : Nodes) (name : Text) (node : Node) : Nodes := Function.update t name (some node)

inductive Node.Means : Node → Meaning → Prop
  | value (m : Meaning) : Means (.value m) m
  | table {origin : Origin} {t : Text → Option Node} {bindings : Bindings} :
      (∀ name, Option.Rel Means (t name) (bindings name)) → Means (.table origin t) (.table bindings)
  | tables {earlier : List Meaning} {t : Text → Option Node} {bindings : Bindings} :
      (∀ name, Option.Rel Means (t name) (bindings name)) →
      Means (.tables earlier t) (.array (earlier ++ [.table bindings]))

def Nodes.Mean (t : Nodes) (bindings : Bindings) : Prop := ∀ name, Option.Rel Node.Means (t name) (bindings name)

/-- Where names may lead: through tables of some origins and to tables of some, into the last table of an array, and
to where nothing is, so that a table comes about. -/
structure Going where
  into : Origin → Prop
  ends : Origin → Prop
  last : Prop
  makes : Option Origin

/-- Dotted keys pass no table that a header has opened, and add to tables of dotted keys only. -/
def Going.dotted : Going := ⟨(· ≠ .declared), (· = .dotted), False, some .dotted⟩

def Going.header : Going := ⟨fun _ => True, fun _ => True, True, some .passed⟩

def Going.section_ : Going := ⟨fun _ => True, fun _ => True, True, none⟩

inductive Goes (going : Going) (change : Nodes → Nodes → Prop) : List Text → Nodes → Nodes → Prop
  | here {t t' : Nodes} : change t t' → Goes going change [] t t'
  | table {t inner inner' : Nodes} {name : Text} {way : List Text} {origin : Origin} :
      t name = some (.table origin inner) → going.into origin → (way = [] → going.ends origin) →
      Goes going change way inner inner' →
      Goes going change (name :: way) t (t.put name (.table origin inner'))
  | last {t inner inner' : Nodes} {name : Text} {way : List Text} {earlier : List Meaning} :
      t name = some (.tables earlier inner) → going.last → Goes going change way inner inner' →
      Goes going change (name :: way) t (t.put name (.tables earlier inner'))
  | fresh {t inner : Nodes} {name : Text} {way : List Text} {origin : Origin} :
      t name = none → going.makes = some origin → Goes going change way Nodes.empty inner →
      Goes going change (name :: way) t (t.put name (.table origin inner))

inductive Sets (key : Text) (m : Meaning) : Nodes → Nodes → Prop
  | mk {t : Nodes} : t key = none → Sets key m t (t.put key (.value m))

def Assigns (way : List Text) (key : Text) (m : Meaning) : Nodes → Nodes → Prop :=
  Goes .dotted (Sets key m) way

inductive Opens (key : Text) : Nodes → Nodes → Prop
  | fresh {t : Nodes} : t key = none → Opens key t (t.put key (.table .declared Nodes.empty))
  | passed {t inner : Nodes} : t key = some (.table .passed inner) → Opens key t (t.put key (.table .declared inner))

inductive Extends (key : Text) : Nodes → Nodes → Prop
  | first {t : Nodes} : t key = none → Extends key t (t.put key (.tables [] Nodes.empty))
  | next {t inner : Nodes} {earlier : List Meaning} {bindings : Bindings} : t key = some (.tables earlier inner) →
      inner.Mean bindings → Extends key t (t.put key (.tables (earlier ++ [.table bindings]) Nodes.empty))

inductive Directive
  | assign (way : List Text) (key : Text) (m : Meaning)
  | table (way : List Text) (key : Text)
  | element (way : List Text) (key : Text)

structure Draft where
  names : Nodes
  section_ : List Text

def Draft.empty : Draft := ⟨Nodes.empty, []⟩

inductive Does : Directive → Draft → Draft → Prop
  | assign {way opened : List Text} {key : Text} {m : Meaning} {t t' : Nodes} :
      Goes .section_ (Assigns way key m) opened t t' → Does (.assign way key m) ⟨t, opened⟩ ⟨t', opened⟩
  | table {way opened : List Text} {key : Text} {t t' : Nodes} : Goes .header (Opens key) way t t' →
      Does (.table way key) ⟨t, opened⟩ ⟨t', way ++ [key]⟩
  | element {way opened : List Text} {key : Text} {t t' : Nodes} : Goes .header (Extends key) way t t' →
      Does (.element way key) ⟨t, opened⟩ ⟨t', way ++ [key]⟩

inductive Run : List Directive → Draft → Draft → Prop
  | nil {draft : Draft} : Run [] draft draft
  | cons {directive : Directive} {directives : List Directive} {draft next last : Draft} :
      Does directive draft next → Run directives next last → Run (directive :: directives) draft last

inductive Gathers : List ((List Text × Text) × Meaning) → Nodes → Nodes → Prop
  | nil {t : Nodes} : Gathers [] t t
  | cons {way : List Text} {key : Text} {m : Meaning} {pairs : List ((List Text × Text) × Meaning)}
      {t t' t'' : Nodes} : Assigns way key m t t' → Gathers pairs t' t'' → Gathers (((way, key), m) :: pairs) t t''

def Tells (directives : List Directive) (bindings : Bindings) : Prop :=
  ∃ draft, Run directives .empty draft ∧ draft.names.Mean bindings

section Rel

variable {α β : Type} {r : α → β → Prop} {a : α} {x : Option α} {y : Option β}

lemma rel_none : Option.Rel r none y ↔ y = none := by
  constructor
  · rintro ⟨⟩
    rfl
  · rintro rfl
    exact .none

lemma rel_some : Option.Rel r (some a) y ↔ ∃ b, y = some b ∧ r a b := by
  constructor
  · rintro (h | _)
    exact ⟨_, rfl, h⟩
  · rintro ⟨b, rfl, h⟩
    exact .some h

lemma eq_none_iff_of_rel (h : Option.Rel r x y) : y = none ↔ x = none := by
  cases h <;> simp

end Rel

variable {directives more : List Directive} {draft last : Draft}

lemma Run.single {directive : Directive} (h : Run [directive] draft last) : Does directive draft last := by
  cases h with
  | cons hd hr =>
    cases hr
    exact hd

lemma Run.append (h : Run (directives ++ more) draft last) :
    ∃ next, Run directives draft next ∧ Run more next last := by
  induction directives generalizing draft with
  | nil => exact ⟨draft, .nil, h⟩
  | cons directive directives ih =>
    cases h with
    | cons hd hr =>
      obtain ⟨next, hnext, hmore⟩ := ih hr
      exact ⟨next, .cons hd hnext, hmore⟩

lemma Nodes.mean_empty : Nodes.empty.Mean fun _ => none := fun _ => .none

lemma Nodes.Mean.put {t : Nodes} {bindings : Bindings} {node : Node} {m : Meaning} (h : t.Mean bindings)
    (hm : node.Means m) (name : Text) : (t.put name node).Mean (Function.update bindings name (some m)) := by
  intro other
  by_cases hn : other = name
  · subst hn
    simpa [Nodes.put] using Option.Rel.some hm
  · simpa [Nodes.put, hn] using h other

end DeclSplit.Toml.Rules
