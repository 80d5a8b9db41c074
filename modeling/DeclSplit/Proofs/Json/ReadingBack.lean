import DeclSplit.Proofs.Json.Reader
import Mathlib.Data.List.Basic
import Mathlib.Tactic.Lemma

/-! What was written as JSON reads back as it was meant. -/

namespace DeclSplit.Json

mutual

def meaning : Json → Value
  | flag b => .flag b
  | number n => .number (Text.ofNat n)
  | text chars => .text chars
  | list items => .list (meanings items)
  | object members => .object (memberMeanings members)

def meanings : List Json → List Value
  | [] => []
  | item :: rest => meaning item :: meanings rest

def memberMeanings : List (Text × Json) → List (Text × Value)
  | [] => []
  | (name, document) :: rest => (name, meaning document) :: memberMeanings rest

end

variable {items : List Json} {members : List (Text × Json)} {depth upper : ℕ} {rest : Text}

lemma meanings_eq (items : List Json) : meanings items = items.map meaning := by
  induction items with
  | nil => rfl
  | cons item items ih => rw [meanings, ih, List.map_cons]

def memberMeaning (member : Text × Json) : Text × Value := (member.1, member.2.meaning)

lemma memberMeanings_eq (members : List (Text × Json)) : memberMeanings members = members.map memberMeaning := by
  induction members with
  | nil => rfl
  | cons member members ih =>
    rw [memberMeanings, ih, List.map_cons]
    rfl

def writeMember (depth : ℕ) (member : Text × Json) : Text :=
  writeText member.1 ++ ": " ++ writeAt depth member.2

lemma writeItems_eq (depth : ℕ) (items : List Json) :
    writeItems depth items = items.flatMap fun item => ',' :: newLine depth ++ writeAt depth item := by
  induction items with
  | nil => rfl
  | cons item items ih => rw [writeItems, ih, List.flatMap_cons]

lemma writeMembers_eq (depth : ℕ) (members : List (Text × Json)) :
    writeMembers depth members = members.flatMap fun member => ',' :: newLine depth ++ writeMember depth member := by
  induction members with
  | nil => rfl
  | cons member members ih =>
    rw [writeMembers, ih, List.flatMap_cons]
    simp [writeMember]

@[elab_as_elim]
theorem induction {motive : Json → Prop} (flag : ∀ b, motive (.flag b)) (number : ∀ n, motive (.number n))
    (text : ∀ chars, motive (.text chars))
    (list : ∀ items, (∀ item ∈ items, motive item) → motive (.list items))
    (object : ∀ members, (∀ member ∈ members, motive member.2) → motive (.object members)) (document : Json) :
    motive document := by
  refine @Json.rec motive (fun items => ∀ item ∈ items, motive item)
    (fun members => ∀ member ∈ members, motive member.2) (fun member => motive member.2)
    flag number text list object ?_ ?_ ?_ ?_ ?_ document
  all_goals simp_all

namespace Reading

variable {n : ℕ}

lemma blanks_append {blank : Text} (h : ∀ c ∈ blank, isBlank c = true) (front : Text) :
    blanks (blank ++ front) = blanks front :=
  List.dropWhile_append_of_pos h

lemma isBlank_of_mem_newLine {c : Char} (h : c ∈ newLine depth) : isBlank c = true := by
  rcases List.mem_cons.mp h with rfl | hc
  · rfl
  · rw [List.eq_of_mem_replicate hc]
    rfl

lemma blanks_newLine (depth : ℕ) (front : Text) : blanks (newLine depth ++ front) = blanks front :=
  blanks_append (fun _ => isBlank_of_mem_newLine) front

lemma blanks_cons {c : Char} (h : isBlank c = false) (front : Text) : blanks (c :: front) = c :: front := by
  simp [blanks, h]

lemma value_blanks (n : ℕ) {front other : Text} (h : blanks front = blanks other) :
    value n front = value n other := by
  cases n with
  | zero => rfl
  | succ n => rw [value, value, h]

lemma unit_append {code : Text} {k : ℕ} (hc : code.length = 4) (h : unit code = some (k, [])) (rest : Text) :
    unit (code ++ rest) = some (k, rest) := by
  rw [unit, List.take_of_length_le (Nat.le_of_eq hc)] at h
  rw [unit, List.take_left' hc, List.drop_left' hc]
  cases hd : code.mapM hexDigit? with
  | none => simp [hd] at h
  | some digits =>
    simp only [hd, Option.bind_eq_bind, Option.bind_some] at h ⊢
    split at h
    · rename_i hl
      rw [if_pos hl]
      simpa using congrArg (Option.map Prod.fst) h
    · cases h

def controlCode (k : ℕ) : Text := (if k < 0x10 then "000" else "00") ++ Text.hexadecimal k

lemma coded_controlCode {c : Char} (h : c.toNat < 0x20) (rest : Text) :
    coded (controlCode c.toNat ++ rest) = some (c, rest) := by
  have hcode : ∀ k < 0x20, (controlCode k).length = 4 ∧ unit (controlCode k) = some (k, []) := by decide +kernel
  obtain ⟨hlength, hunit⟩ := hcode _ h
  have hvalid : c.toNat.isValidChar := .inl (Nat.lt_trans h (by decide))
  rw [coded, unit_append hlength hunit]
  simp [hvalid]

lemma character_cons {c : Char} (hb : c ≠ '\\') (hc : 0x20 ≤ c.toNat) (rest : Text) :
    character (c :: rest) = some (c, rest) := by
  unfold character
  split
  · rename_i h
    cases h
    exact absurd rfl hb
  · rename_i h
    cases h
    exact if_pos hc
  · rename_i h
    cases h

lemma character_escape (c : Char) (rest : Text) :
    character (escape c ++ rest) = some (c, rest) ∧ (escape c ++ rest).head? ≠ some '"' := by
  unfold escape
  split
  case h_8 hq hb _ _ _ _ _ =>
    split
    · rename_i hc
      have hcode : "\\u000".toList ++ Text.hexadecimal c.toNat = '\\' :: 'u' :: controlCode c.toNat := by
        rw [controlCode, if_pos hc]
        rfl
      rw [hcode]
      exact ⟨coded_controlCode (by omega) rest, by simp⟩
    split
    · rename_i hc hc'
      have hcode : "\\u00".toList ++ Text.hexadecimal c.toNat = '\\' :: 'u' :: controlCode c.toNat := by
        rw [controlCode, if_neg hc]
        rfl
      rw [hcode]
      exact ⟨coded_controlCode hc' rest, by simp⟩
    · rename_i hc
      exact ⟨character_cons hb (by omega) rest, by simpa using hq⟩
  all_goals exact ⟨rfl, by simp⟩

lemma chars_flatMap {said : Text} (h : said.length < n) (rest : Text) :
    chars n (said.flatMap escape ++ '"' :: rest) = some (said, rest) := by
  induction said generalizing n with
  | nil =>
    obtain ⟨n, rfl⟩ := Nat.exists_eq_succ_of_ne_zero (Nat.ne_zero_of_lt h)
    rfl
  | cons c said ih =>
    obtain ⟨n, rfl⟩ := Nat.exists_eq_succ_of_ne_zero (Nat.ne_zero_of_lt h)
    obtain ⟨hread, hhead⟩ := character_escape c (said.flatMap escape ++ '"' :: rest)
    rw [List.flatMap_cons, List.append_assoc, chars, if_neg hhead, hread]
    simp [ih (Nat.lt_of_succ_lt_succ h)]

def Ends (rest : Text) : Prop := ∀ c ∈ rest.head?, c = ',' ∨ c = '\n'

lemma digits_append {run : Text} (hr : ∀ c ∈ run, c.isDigit = true) (hn : run ≠ []) (he : Ends rest) :
    digits (run ++ rest) = some (run, rest) := by
  have htake : rest.takeWhile Char.isDigit = [] := by
    cases rest with
    | nil => rfl
    | cons c rest => rcases he c rfl with rfl | rfl <;> rfl
  have hdrop : rest.dropWhile Char.isDigit = rest := by
    simpa [htake] using List.takeWhile_append_dropWhile (p := Char.isDigit) (l := rest)
  rw [digits, List.takeWhile_append_of_pos hr, List.dropWhile_append_of_pos hr, htake, hdrop, List.append_nil]
  cases run with
  | nil => exact absurd rfl hn
  | cons c run => rfl

lemma head?_ofNat {k : ℕ} (hk : 0 < k) : (Text.ofNat k).head? ≠ some '0' := by
  rw [Text.ofNat]
  induction k using Nat.strongRecOn with
  | ind k ih =>
    by_cases hlt : k < 10
    · rw [Nat.toDigits_of_lt_base hlt, List.head?_cons, Ne, Option.some.injEq, Nat.digitChar_eq_zero]
      omega
    · rw [Nat.toDigits_of_base_le (by decide) (by omega), List.head?_append_of_ne_nil _ Nat.toDigits_ne_nil]
      exact ih (k / 10) (by omega) (by omega)

lemma isDigit_of_mem_ofNat {k : ℕ} {c : Char} (h : c ∈ Text.ofNat k) : c.isDigit = true :=
  Nat.isDigit_of_mem_toDigits (by decide) (by decide) h

lemma ofNat_head (k : ℕ) : ∃ c run, Text.ofNat k = c :: run ∧ c.isDigit = true := by
  obtain ⟨c, run, hk⟩ := List.exists_cons_of_ne_nil (Nat.toDigits_ne_nil (n := k) (b := 10))
  exact ⟨c, run, hk, isDigit_of_mem_ofNat (hk ▸ List.mem_cons_self)⟩

lemma notMem_of_apply {p : Char → Bool} {c : Char} {chars : Text} (hc : p c = true)
    (hp : chars.any p = false) : c ∉ chars := by
  intro h
  rw [List.any_eq_false] at hp
  exact hp c h hc

lemma whole_ofNat (k : ℕ) (he : Ends rest) : whole (Text.ofNat k ++ rest) = some (Text.ofNat k, rest) := by
  have hfirst : ¬ ((Text.ofNat k).head? = some '0' ∧ Text.ofNat k ≠ ['0']) := by
    rintro ⟨hhead, hne⟩
    rcases Nat.eq_zero_or_pos k with rfl | hk
    · exact hne rfl
    · exact head?_ofNat hk hhead
  rw [whole, digits_append (fun _ => isDigit_of_mem_ofNat) Nat.toDigits_ne_nil he]
  simp only [Option.bind_eq_bind, Option.bind_some, if_neg hfirst]

lemma number_ofNat (k : ℕ) (he : Ends rest) : number (Text.ofNat k ++ rest) = some (Text.ofNat k, rest) := by
  have hsign : sign ['-'] (Text.ofNat k ++ rest) = ([], Text.ofNat k ++ rest) := by
    obtain ⟨c, run, hk, hc⟩ := ofNat_head k
    rw [hk, List.cons_append, sign, if_neg (notMem_of_apply hc rfl)]
  have hrest : fraction rest = some ([], rest) ∧ exponent rest = some ([], rest) := by
    cases rest with
    | nil => exact ⟨rfl, rfl⟩
    | cons c rest => rcases he c rfl with rfl | rfl <;> exact ⟨rfl, rfl⟩
  rw [number, hsign]
  simp only [Option.bind_eq_bind, whole_ofNat k he, hrest.1, hrest.2, Option.bind_some, List.nil_append,
    List.append_nil]

variable {β : Type} {item : Text → Option (α × Text)} {close : Char} {spell : β → Text} {meant : β → α}

lemma ends_newLine (depth : ℕ) (front : Text) : Ends (newLine depth ++ front) := by
  intro c hc
  exact .inr (Option.some.inj hc).symm

lemma ends_comma (front : Text) : Ends (',' :: front) := by
  intro c hc
  exact .inl (Option.some.inj hc).symm

def lines (depth upper : ℕ) (spell : β → Text) (close : Char) (rest : Text) (first : β) : List β → Text
  | [] => newLine depth ++ spell first ++ (newLine upper ++ close :: rest)
  | second :: more => newLine depth ++ spell first ++ ',' :: lines depth upper spell close rest second more

lemma lines_eq (first : β) (more : List β) : lines depth upper spell close rest first more =
    newLine depth ++ spell first ++ more.flatMap (fun b => ',' :: newLine depth ++ spell b) ++
      newLine upper ++ close :: rest := by
  induction more generalizing first with
  | nil => simp [lines]
  | cons second more ih => simp [lines, ih]

lemma length_lines (first : β) (more : List β) :
    more.length < (lines depth upper spell close rest first more).length ∧
      ∀ b ∈ first :: more, (spell b).length < (lines depth upper spell close rest first more).length := by
  have hline : 0 < (newLine depth).length := Nat.succ_pos _
  induction more generalizing first with
  | nil =>
    simp [lines]
    omega
  | cons second more ih =>
    obtain ⟨hcount, hitems⟩ := ih second
    simp only [lines, List.length_append, List.length_cons]
    refine ⟨by omega, ?_⟩
    intro b hb
    rcases List.mem_cons.mp hb with rfl | hb
    · omega
    · have := hitems b hb
      omega

lemma items_lines (hclose : isBlank close = false ∧ close ≠ ',') {first : β} {more : List β}
    (hn : more.length < n)
    (h : ∀ b ∈ first :: more, ∀ rest, Ends rest →
      item (newLine depth ++ spell b ++ rest) = some (meant b, rest)) :
    Reading.items item close n (lines depth upper spell close rest first more) =
      some (meant first :: more.map meant, rest) := by
  induction more generalizing first n with
  | nil =>
    obtain ⟨n, rfl⟩ := Nat.exists_eq_succ_of_ne_zero (Nat.ne_zero_of_lt hn)
    rw [lines, Reading.items, h first List.mem_cons_self _ (ends_newLine _ _)]
    simp [blanks_newLine, blanks_cons hclose.1]
  | cons second more ih =>
    obtain ⟨n, rfl⟩ := Nat.exists_eq_succ_of_ne_zero (Nat.ne_zero_of_lt hn)
    have hlater := ih (Nat.lt_of_succ_lt_succ hn) fun b hb => h b (List.mem_cons_of_mem _ hb)
    rw [lines, Reading.items, h first List.mem_cons_self _ (ends_comma _)]
    simp [blanks_cons, isBlank, hclose.2.symm, hlater]

lemma enclosed_lines (hclose : isBlank close = false ∧ close ≠ ',') {first : β} {more : List β}
    (hn : (lines depth upper spell close [] first more).length ≤ n)
    (hfirst : ∃ c front, spell first = c :: front ∧ isBlank c = false ∧ c ≠ close)
    (h : ∀ b ∈ first :: more, (spell b).length ≤ n → ∀ rest, Ends rest →
      item (newLine depth ++ (spell b ++ rest)) = some (meant b, rest)) (rest : Text) :
    enclosed item close n (lines depth upper spell close rest first more) =
      some (meant first :: more.map meant, rest) := by
  obtain ⟨c, front, hspell, hc, hne⟩ := hfirst
  obtain ⟨hcount, hitems⟩ : more.length < (lines depth upper spell close [] first more).length ∧ _ :=
    length_lines first more
  rw [enclosed, if_neg, items_lines hclose (by omega)]
  · intro b hb rest hrest
    rw [List.append_assoc]
    exact h b hb (by have := hitems b hb; omega) rest hrest
  · simp only [lines_eq, List.append_assoc, blanks_newLine, hspell, List.cons_append, blanks_cons hc,
      List.head?_cons]
    simpa using hne

def marks : Text := [' ', '\t', '\n', '\r', '"', '[', '{', 't', 'f', 'n']

lemma isBlank_of_notMem {c : Char} (hc : c ∉ marks) : isBlank c = false := by
  simp [marks] at hc
  simp [isBlank, hc]

lemma writeAt_head (depth : ℕ) (document : Json) :
    ∃ c front, writeAt depth document = c :: front ∧ isBlank c = false ∧ c ≠ ']' := by
  cases document with
  | flag b => cases b <;> exact ⟨_, _, rfl, rfl, by decide⟩
  | number k =>
    obtain ⟨c, run, hk, hc⟩ := ofNat_head k
    refine ⟨c, run, by rw [writeAt, hk], isBlank_of_notMem (notMem_of_apply hc rfl), ?_⟩
    rintro rfl
    cases hc
  | text chars => exact ⟨_, _, by rw [writeAt, writeText]; rfl, rfl, by decide⟩
  | list items =>
    cases items with
    | nil => exact ⟨_, _, by rw [writeAt]; rfl, rfl, by decide⟩
    | cons item items => exact ⟨_, _, by rw [writeAt]; rfl, rfl, by decide⟩
  | object members =>
    cases members with
    | nil => exact ⟨_, _, by rw [writeAt]; rfl, rfl, by decide⟩
    | cons member members => exact ⟨_, _, by rw [writeAt]; rfl, rfl, by decide⟩

lemma writeMember_head (depth : ℕ) (member : Text × Json) :
    ∃ c front, writeMember depth member = c :: front ∧ isBlank c = false ∧ c ≠ '}' :=
  ⟨_, _, rfl, rfl, by decide⟩

lemma length_le_flatMap_escape (said : Text) : said.length ≤ (said.flatMap escape).length := by
  induction said with
  | nil => exact Nat.le_refl _
  | cons c said ih =>
    have hc : 0 < (escape c).length := by
      unfold escape
      repeat' split
      all_goals simp
    rw [List.flatMap_cons, List.length_append, List.length_cons]
    omega

lemma chars_writeText {said : Text} (h : (writeText said).length ≤ n + 1) (rest : Text) :
    ∃ front, writeText said ++ rest = '"' :: front ∧ chars n front = some (said, rest) := by
  refine ⟨said.flatMap escape ++ '"' :: rest, by simp [writeText], chars_flatMap ?_ rest⟩
  have hs := length_le_flatMap_escape said
  have hl : (writeText said).length = (said.flatMap escape).length + 2 := by simp [writeText]
  omega

lemma value_number {c : Char} (hc : c ∉ marks) (front : Text) :
    value (n + 1) (c :: front) = (number (c :: front)).map fun read => (.number read.1, read.2) := by
  have hblank := isBlank_of_notMem hc
  have hword : (words.find? fun entry => entry.1.isPrefixOf (c :: front)) = none := by
    have hletters : 't' ≠ c ∧ 'f' ≠ c ∧ 'n' ≠ c := by
      refine ⟨?_, ?_, ?_⟩ <;> rintro rfl <;> exact hc (by decide)
    simp [words, hletters]
  rw [value, blanks_cons hblank]
  split
  case h_4 =>
    rw [hword]
  all_goals
    rename_i h
    cases h
    exact absurd (by decide) hc

lemma member_writeMember {member : Text × Json} {read : Text → Option (Value × Text)}
    (hn : (writeMember depth member).length ≤ n)
    (h : ∀ rest, Ends rest → read (' ' :: (writeAt depth member.2 ++ rest)) = some (member.2.meaning, rest))
    (he : Ends rest) :
    Reading.member read n (newLine upper ++ (writeMember depth member ++ rest)) =
      some (memberMeaning member, rest) := by
  have hname : (writeText member.1).length ≤ n + 1 := by
    simp only [writeMember, List.length_append] at hn
    omega
  obtain ⟨front, hfront, hread⟩ := chars_writeText hname (": " ++ (writeAt depth member.2 ++ rest))
  rw [Reading.member, blanks_newLine, writeMember, List.append_assoc, List.append_assoc, hfront, blanks_cons rfl]
  simp [hread, blanks_cons, isBlank, h rest he, memberMeaning]

lemma value_spaced {c : Char} (hc : isBlank c = true) (n : ℕ) (front : Text) :
    value n (c :: front) = value n front := by
  have hblank : ∀ d ∈ [c], isBlank d = true := by simpa using hc
  exact value_blanks n (blanks_append hblank front)

def ReadsBack (document : Json) : Prop := ∀ ⦃depth n : ℕ⦄ ⦃rest : Text⦄,
  (writeAt depth document).length ≤ n + 1 → Ends rest →
    value (n + 1) (writeAt depth document ++ rest) = some (document.meaning, rest)

lemma ReadsBack.value {document : Json} (h : ReadsBack document) (hn : (writeAt depth document).length ≤ n)
    (he : Ends rest) : Reading.value n (writeAt depth document ++ rest) = some (document.meaning, rest) := by
  obtain ⟨c, front, hhead, -⟩ := writeAt_head depth document
  obtain ⟨n, rfl⟩ : ∃ m, n = m + 1 := by
    rw [hhead] at hn
    exact Nat.exists_eq_succ_of_ne_zero (Nat.ne_zero_of_lt hn)
  exact h hn he

lemma readsBack_flag (b : Bool) : ReadsBack (.flag b) := by
  intro depth n rest _ _
  cases b <;> simp [Reading.value, writeAt, blanks, isBlank, words, meaning]

lemma readsBack_number (k : ℕ) : ReadsBack (.number k) := by
  intro depth n rest _ he
  obtain ⟨c, run, hk, hc⟩ := ofNat_head k
  rw [writeAt, hk, List.cons_append, value_number (notMem_of_apply hc rfl), ← List.cons_append, ← hk,
    number_ofNat k he]
  rfl

lemma readsBack_text (said : Text) : ReadsBack (.text said) := by
  intro depth n rest hn _
  obtain ⟨front, hfront, hread⟩ := chars_writeText hn rest
  rw [writeAt, hfront, Reading.value, blanks_cons rfl]
  simp only [hread]
  rfl

lemma readsBack_list {items : List Json} (h : ∀ item ∈ items, ReadsBack item) : ReadsBack (.list items) := by
  intro depth n rest hn he
  cases items with
  | nil => simp [Reading.value, writeAt, blanks, isBlank, meaning, enclosed, meanings]
  | cons item items =>
    have hwrite : ∀ rest, writeAt depth (.list (item :: items)) ++ rest =
        '[' :: lines (depth + 1) depth (writeAt (depth + 1)) ']' rest item items := by
      simp [writeAt, lines_eq, writeItems_eq]
    have hlength := congrArg List.length (hwrite [])
    rw [List.append_nil, List.length_cons] at hlength
    have hread : enclosed (Reading.value n) ']' n
        (lines (depth + 1) depth (writeAt (depth + 1)) ']' rest item items) =
          some (item.meaning :: items.map meaning, rest) := by
      refine enclosed_lines ⟨rfl, by decide⟩ (by omega) (writeAt_head _ _) ?_ rest
      intro b hb hfits rest he
      rw [value_blanks n (blanks_newLine _ _)]
      exact (h b hb).value hfits he
    rw [hwrite, Reading.value, blanks_cons rfl]
    simp only [hread, meaning, meanings_eq, List.map_cons, Option.map_some]

lemma readsBack_object {members : List (Text × Json)} (h : ∀ member ∈ members, ReadsBack member.2) :
    ReadsBack (.object members) := by
  intro depth n rest hn he
  cases members with
  | nil => simp [Reading.value, writeAt, blanks, isBlank, meaning, enclosed, memberMeanings]
  | cons member members =>
    have hwrite : ∀ rest, writeAt depth (.object (member :: members)) ++ rest =
        '{' :: lines (depth + 1) depth (writeMember (depth + 1)) '}' rest member members := by
      simp [writeAt, lines_eq, writeMembers_eq, writeMember]
    have hlength := congrArg List.length (hwrite [])
    rw [List.append_nil, List.length_cons] at hlength
    have hread : enclosed (Reading.member (Reading.value n) n) '}' n
        (lines (depth + 1) depth (writeMember (depth + 1)) '}' rest member members) =
          some (memberMeaning member :: members.map memberMeaning, rest) := by
      refine enclosed_lines ⟨rfl, by decide⟩ (by omega) (writeMember_head _ _) ?_ rest
      intro b hb hfits rest he
      refine member_writeMember hfits ?_ he
      intro rest he
      rw [value_spaced rfl]
      refine (h b hb).value ?_ he
      simp only [writeMember, List.length_append] at hfits
      omega
    rw [hwrite, Reading.value, blanks_cons rfl]
    simp only [hread, meaning, memberMeanings_eq, List.map_cons, Option.map_some]

theorem readsBack (document : Json) : ReadsBack document := by
  induction document using Json.induction with
  | flag b => exact readsBack_flag b
  | number k => exact readsBack_number k
  | text said => exact readsBack_text said
  | list items ih => exact readsBack_list ih
  | object members ih => exact readsBack_object ih

lemma value_capital {c : Char} (hc : c.isUpper = true) (n : ℕ) (front : Text) : value n (c :: front) = none := by
  cases n with
  | zero => rfl
  | succ n =>
    have hdigit : c.isDigit = false := by
      obtain ⟨hA, -⟩ : c.val ≥ 'A'.val ∧ c.val ≤ 'Z'.val := of_decide_eq_true hc
      rw [Bool.eq_false_iff, Ne, Char.isDigit_iff_toNat]
      rintro ⟨-, h9⟩
      exact absurd (Nat.le_trans (show 'A'.toNat ≤ c.toNat from hA) h9) (by decide)
    have hminus : c ∉ ['-'] := notMem_of_apply hc rfl
    rw [value_number (notMem_of_apply hc rfl)]
    simp [number, sign, hminus, whole, digits, hdigit]

end Reading

theorem read?_write (document : Json) : read? document.write = some document.meaning := by
  have hends : Reading.Ends [] := by
    intro c hc
    cases hc
  have hread := Reading.readsBack document (Nat.le_add_right (writeAt 0 document).length 1) hends
  rw [List.append_nil] at hread
  rw [read?, write, hread]
  rfl

end DeclSplit.Json
