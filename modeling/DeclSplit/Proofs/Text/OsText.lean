import DeclSplit.Text.OsText
import Mathlib.Data.List.Basic
import Mathlib.Tactic.Lemma

/-! Texts among those that the system keeps: they are told by their characters, and shown as they are. -/

namespace DeclSplit

variable {c : Char} {text other : Text} {name rest : OsText}

namespace Text

@[simp] lemma os_nil : os [] = [] := rfl

@[simp] lemma os_cons : os (c :: text) = .char c :: text.os := rfl

@[simp] lemma os_append : os (text ++ other) = text.os ++ other.os := List.map_append

lemma os_injective : Function.Injective os := List.map_injective_iff.mpr fun _ _ h => OsChar.char.inj h

@[simp] lemma os_inj : text.os = other.os ↔ text = other := os_injective.eq_iff

@[simp] lemma os_eq_nil : text.os = [] ↔ text = [] := List.map_eq_nil_iff

@[simp] lemma mem_os : OsChar.char c ∈ text.os ↔ c ∈ text := by
  simp [os]

end Text

namespace OsText

@[simp] lemma showFrom_os (awaited : List (UInt8 × UInt8)) : showFrom awaited text.os = text := by
  induction text generalizing awaited with
  | nil => cases awaited <;> rfl
  | cons c text ih => cases awaited <;> exact congrArg (c :: ·) (ih [])

@[simp] lemma shown_os : shown text.os = text := showFrom_os []

lemma text?_eq_some_iff : name.text? = some text ↔ name = text.os := by
  induction name generalizing text with
  | nil => cases text <;> simp [text?]
  | cons unit name ih =>
    cases unit with
    | stray b => cases text <;> simp [text?]
    | char c => cases text <;> simp [text?, ih, and_comm]

lemma text?_eq_none_iff : name.text? = none ↔ ∃ byte, .stray byte ∈ name := by
  induction name with
  | nil => simp [text?]
  | cons unit name ih => cases unit <;> simp [text?, ih]

@[simp] lemma text?_os : text? text.os = some text := text?_eq_some_iff.mpr rfl

lemma byteLength_append (name rest : OsText) : byteLength (name ++ rest) = name.byteLength + rest.byteLength := by
  induction name with
  | nil => exact (Nat.zero_add _).symm
  | cons unit name ih => rw [List.cons_append, byteLength, ih, byteLength, Nat.add_assoc]

lemma byteLength_le_of_sublist (h : name.Sublist rest) : name.byteLength ≤ rest.byteLength := by
  induction h with
  | slnil => exact Nat.le_refl _
  | cons c _ ih => exact Nat.le_trans ih (Nat.le_add_left _ _)
  | cons_cons c _ ih => exact Nat.add_le_add_left ih _

end OsText

end DeclSplit
