/-!
Positions in a text are byte offsets into its UTF-8 form, while the text itself is a list of characters.
`Occurs text offset part` says that `part` stands in `text` at a byte offset; `slice` cuts a part out, and
`slice_of_occurs` says that it finds exactly what occurs.
-/

namespace DeclSplit.Text

def byteLength (chars : List Char) : Nat :=
  chars.foldl (fun length c => length + c.utf8Size) 0

theorem foldl_utf8Size (chars : List Char) (start : Nat) :
    chars.foldl (fun length c => length + c.utf8Size) start = start + byteLength chars := by
  induction chars generalizing start with
  | nil => simp [byteLength]
  | cons c r ih =>
    simp only [byteLength, List.foldl_cons, Nat.zero_add]
    rw [ih, ih c.utf8Size, Nat.add_assoc]

@[simp] theorem byteLength_nil : byteLength [] = 0 := rfl

@[simp] theorem byteLength_cons (c : Char) (r : List Char) :
    byteLength (c :: r) = c.utf8Size + byteLength r := by
  rw [byteLength, List.foldl_cons, foldl_utf8Size, Nat.zero_add]

@[simp] theorem byteLength_append (xs ys : List Char) :
    byteLength (xs ++ ys) = byteLength xs + byteLength ys := by
  rw [byteLength, List.foldl_append, foldl_utf8Size]
  rfl

theorem append_inj_of_byteLength {xs ys xs' ys' : List Char} (whole : xs ++ ys = xs' ++ ys')
    (length : byteLength xs = byteLength xs') : xs = xs' ∧ ys = ys' := by
  induction xs generalizing xs' with
  | nil =>
    cases xs' with
    | nil => exact ⟨rfl, whole⟩
    | cons c r =>
      have := c.utf8Size_pos
      simp at length
      omega
  | cons c r ih =>
    cases xs' with
    | nil =>
      have := c.utf8Size_pos
      simp at length
      omega
    | cons c' r' =>
      simp only [List.cons_append, List.cons.injEq] at whole
      obtain ⟨rfl, tails⟩ := whole
      simp only [byteLength_cons, Nat.add_left_cancel_iff] at length
      obtain ⟨rfl, rest⟩ := ih tails length
      exact ⟨rfl, rest⟩

def dropBytes : Nat → List Char → List Char
  | _, [] => []
  | 0, text => text
  | n + 1, c :: r => dropBytes (n + 1 - c.utf8Size) r

def takeBytes : Nat → List Char → List Char
  | _, [] => []
  | 0, _ => []
  | n + 1, c :: r => c :: takeBytes (n + 1 - c.utf8Size) r

def slice (text : List Char) (start stop : Nat) : List Char :=
  takeBytes (stop - start) (dropBytes start text)

theorem dropBytes_append (before after : List Char) :
    dropBytes (byteLength before) (before ++ after) = after := by
  induction before with
  | nil => cases after <;> rfl
  | cons c r ih =>
    have := c.utf8Size_pos
    rw [byteLength_cons, List.cons_append]
    obtain ⟨n, hn⟩ : ∃ n, c.utf8Size + byteLength r = n + 1 := ⟨c.utf8Size + byteLength r - 1, by omega⟩
    rw [hn, dropBytes, show n + 1 - c.utf8Size = byteLength r by omega, ih]

theorem takeBytes_append (part after : List Char) :
    takeBytes (byteLength part) (part ++ after) = part := by
  induction part with
  | nil => cases after <;> rfl
  | cons c r ih =>
    have := c.utf8Size_pos
    rw [byteLength_cons, List.cons_append]
    obtain ⟨n, hn⟩ : ∃ n, c.utf8Size + byteLength r = n + 1 := ⟨c.utf8Size + byteLength r - 1, by omega⟩
    rw [hn, takeBytes, show n + 1 - c.utf8Size = byteLength r by omega, ih]

def Occurs (text : List Char) (offset : Nat) (part : List Char) : Prop :=
  ∃ before after, text = before ++ part ++ after ∧ byteLength before = offset

theorem slice_of_occurs {text part : List Char} {offset : Nat} (h : Occurs text offset part) :
    slice text offset (offset + byteLength part) = part := by
  obtain ⟨before, after, rfl, rfl⟩ := h
  rw [slice, List.append_assoc, dropBytes_append, Nat.add_sub_cancel_left, takeBytes_append]

def Remains (text : List Char) (offset : Nat) (tail : List Char) : Prop :=
  ∃ before, text = before ++ tail ∧ byteLength before = offset

theorem Remains.refl (text : List Char) : Remains text 0 text := ⟨[], rfl, rfl⟩

theorem Remains.at_end (text : List Char) : Remains text (byteLength text) [] :=
  ⟨text, by simp, rfl⟩

theorem Remains.drop {text tail : List Char} {offset : Nat} (h : Remains text offset tail) (n : Nat) :
    Remains text (offset + byteLength (tail.take n)) (tail.drop n) := by
  obtain ⟨before, rfl, rfl⟩ := h
  exact ⟨before ++ tail.take n, by simp, by simp⟩

theorem Remains.take {text tail : List Char} {offset : Nat} (h : Remains text offset tail) (n : Nat) :
    Occurs text offset (tail.take n) := by
  obtain ⟨before, rfl, rfl⟩ := h
  exact ⟨before, tail.drop n, by simp, rfl⟩

theorem Occurs.remains {text part : List Char} {offset : Nat} (h : Occurs text offset part) :
    ∃ tail, Remains text (offset + byteLength part) tail := by
  obtain ⟨before, after, rfl, rfl⟩ := h
  exact ⟨after, before ++ part, rfl, byteLength_append before part⟩

theorem Occurs.restore {text part tail : List Char} {offset : Nat} (h : Occurs text offset part)
    (rest : Remains text (offset + byteLength part) tail) : Remains text offset (part ++ tail) := by
  obtain ⟨before, after, rfl, rfl⟩ := h
  obtain ⟨before', whole, length⟩ := rest
  obtain ⟨_, rfl⟩ := append_inj_of_byteLength whole (by rw [length, byteLength_append])
  exact ⟨before, by simp, rfl⟩

end DeclSplit.Text
