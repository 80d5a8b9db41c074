import DeclSplit.Proofs.Text.Pieces
import Mathlib.Data.List.Infix

/-! Texts as bytes: UTF-8 keeps the order of texts, and what occurs in a text is a stretch of its bytes. -/

namespace DeclSplit.Text

variable {text other part : Text} {offset : ℕ}

def bytes (text : Text) : List UInt8 := text.flatMap String.utf8EncodeChar

lemma bytes_append (text other : Text) : (text ++ other).bytes = text.bytes ++ other.bytes :=
  List.flatMap_append

lemma length_bytes (text : Text) : text.bytes.length = byteLength text := by
  induction text with
  | nil => rfl
  | cons c text ih => rw [bytes, List.flatMap_cons, List.length_append, ← bytes, ih, byteLength_cons,
      String.length_utf8EncodeChar]

lemma bytes_of_occurs (h : Occurs text offset part) :
    part.bytes = (text.bytes.take (offset + byteLength part)).drop offset := by
  obtain ⟨before, after, rfl, rfl⟩ := h
  rw [← byteLength_append, bytes_append, ← length_bytes, ← length_bytes, List.take_left, bytes_append,
    List.drop_left]

lemma occurs_slice {start stop : ℕ} {tail rest : Text} (hs : Remains text start tail)
    (ht : Remains text stop rest) (h : start ≤ stop) :
    Occurs text start (slice text start stop) ∧ start + byteLength (slice text start stop) = stop := by
  obtain ⟨part, hpart, hstop⟩ : ∃ part, Occurs text start part ∧ start + byteLength part = stop := by
    obtain ⟨before, hwhole, rfl⟩ := hs
    obtain ⟨upto, rfl, rfl⟩ := ht
    rcases List.prefix_or_prefix_of_prefix ⟨tail, hwhole.symm⟩ (List.prefix_append upto rest) with
      ⟨part, rfl⟩ | hshort
    · exact ⟨part, ⟨before, rest, rfl, rfl⟩, (byteLength_append before part).symm⟩
    · have hle : byteLength upto ≤ byteLength before := by
        obtain ⟨more, rfl⟩ := hshort
        rw [byteLength_append]
        exact Nat.le_add_right _ _
      exact ⟨[], ⟨before, tail, by rw [hwhole, List.append_nil], rfl⟩, Nat.le_antisymm h hle⟩
  have hslice := slice_of_occurs hpart
  rw [hstop] at hslice
  rw [hslice]
  exact ⟨hpart, hstop⟩

inductive Encoded (n : ℕ) : List UInt8 → Prop
  | one : n ≤ 0x7f → Encoded n [UInt8.ofNat n]
  | two : 0x7f < n → n ≤ 0x7ff → Encoded n [UInt8.ofNat (n / 64 + 192), UInt8.ofNat (n % 64 + 128)]
  | three : 0x7ff < n → n ≤ 0xffff →
      Encoded n [UInt8.ofNat (n / 64 / 64 + 224), UInt8.ofNat (n / 64 % 64 + 128), UInt8.ofNat (n % 64 + 128)]
  | four : 0xffff < n → n ≤ 0x10ffff → Encoded n [UInt8.ofNat (n / 64 / 64 / 64 + 240),
      UInt8.ofNat (n / 64 / 64 % 64 + 128), UInt8.ofNat (n / 64 % 64 + 128), UInt8.ofNat (n % 64 + 128)]

lemma encoded (c : Char) : Encoded c.val.toNat (String.utf8EncodeChar c) := by
  have hc : c.val.toNat ≤ 0x10ffff := by
    rcases c.valid with h | h
    · exact Nat.le_of_lt (Nat.lt_trans h (by decide))
    · exact Nat.le_of_lt_succ h.2
  rw [String.utf8EncodeChar]
  generalize c.val.toNat = n at *
  split
  · exact .one ‹_›
  split
  · rw [show n / 64 % 32 = n / 64 by omega]
    exact .two (by omega) ‹_›
  split
  · rw [show n / 4096 % 16 = n / 64 / 64 by omega]
    exact .three (by omega) ‹_›
  · rw [show n / 262144 % 8 = n / 64 / 64 / 64 by omega, show n / 4096 % 64 = n / 64 / 64 % 64 by omega]
    exact .four (by omega) hc

lemma ofNat_cons_lt {m n : ℕ} (hm : m < 256) (hn : n < 256) {xs ys : List UInt8} :
    UInt8.ofNat m :: xs < UInt8.ofNat n :: ys ↔ m < n ∨ m = n ∧ xs < ys := by
  rw [List.cons_lt_cons_iff, UInt8.lt_iff_toNat_lt, ← UInt8.toNat_inj, UInt8.toNat_ofNat_of_lt' hm,
    UInt8.toNat_ofNat_of_lt' hn]

lemma Encoded.lt {m n : ℕ} {code later : List UInt8} (hm : Encoded m code) (hn : Encoded n later) (h : m < n)
    (xs ys : List UInt8) : code ++ xs < later ++ ys := by
  cases hm <;> cases hn <;> first | omega | skip
  all_goals simp (disch := omega) only [List.cons_append, List.nil_append, ofNat_cons_lt]
  all_goals omega

theorem bytes_lt (h : text < other) : text.bytes < other.bytes := by
  induction h with
  | @nil c other =>
    have hc : 0 < (String.utf8EncodeChar c).length := by
      rw [String.length_utf8EncodeChar]
      exact c.utf8Size_pos
    obtain ⟨byte, code, hcode⟩ := List.exists_cons_of_length_pos hc
    rw [bytes.eq_def (c :: other), List.flatMap_cons, hcode]
    exact .nil
  | rel h => exact (encoded _).lt (encoded _) h _ _
  | cons _ ih => exact List.append_left_lt ih

lemma lt_of_not_lt (h : ¬ other < text) (hne : text ≠ other) : text < other := by
  by_contra h'
  exact hne (List.le_antisymm (List.not_lt.mp h) (List.not_lt.mp h'))

lemma bytes_not_lt (h : ¬ other < text) : ¬ other.bytes < text.bytes := by
  by_cases he : text = other
  · rw [he]
    exact List.lt_irrefl _
  · exact List.lt_asymm (bytes_lt (lt_of_not_lt h he))

lemma bytes_lt_of_ne (h : ¬ other.bytes < text.bytes) (hne : text ≠ other) : text.bytes < other.bytes := by
  by_cases hlt : other < text
  · exact absurd (bytes_lt hlt) h
  · exact bytes_lt (lt_of_not_lt hlt hne)

end DeclSplit.Text
