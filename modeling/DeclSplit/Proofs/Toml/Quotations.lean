import DeclSplit.Proofs.Toml.Rules
import DeclSplit.Proofs.Toml.Taking
import DeclSplit.Toml.Value
import Mathlib.Tactic.IntervalCases

/-! Blanks, comments and quoted texts are read as they are spelled. -/

namespace DeclSplit.Toml

open Text Rules

variable {start : ℕ} {text value rest b g : Text}

section Classes

lemma isRemark_eq : isRemark = Reader.isInLine := by
  funext c
  rw [Bool.eq_iff_iff]
  simp [isRemark, Reader.isInLine, between, isNonAscii, ← Char.toNat_inj, UInt32.le_iff_toNat_le, ← UInt32.toNat_inj]
  omega

lemma isUnescaped_eq : isUnescaped = Reader.isPlain := by
  funext c
  rw [Bool.eq_iff_iff]
  simp [isUnescaped, Rules.isBlank, Reader.isPlain, Reader.isInLine, between, isNonAscii, ← Char.toNat_inj,
    UInt32.le_iff_toNat_le, ← UInt32.toNat_inj]
  omega

lemma isLiteral_eq : Rules.isLiteral = Reader.isLiteral := by
  funext c
  rw [Bool.eq_iff_iff]
  simp [Rules.isLiteral, Reader.isLiteral, Reader.isInLine, between, isNonAscii, ← Char.toNat_inj,
    UInt32.le_iff_toNat_le, ← UInt32.toNat_inj]
  omega

lemma isDigit_eq : Rules.isDigit = Reader.isDigit := by
  funext c
  rw [Bool.eq_iff_iff]
  simp [Rules.isDigit, Reader.isDigit, Char.isDigit, between, UInt32.le_iff_toNat_le]

lemma isLeadingDigit_eq : isLeadingDigit = fun c => decide ('1' ≤ c) && decide (c ≤ '9') := by
  funext c
  rw [Bool.eq_iff_iff]
  simp [isLeadingDigit, between, Char.le_def, UInt32.le_iff_toNat_le]

lemma isHexDigit_eq : Rules.isHexDigit = Reader.isHexDigit := by
  funext c
  rw [Bool.eq_iff_iff]
  simp [Rules.isHexDigit, Rules.isDigit, Reader.isHexDigit, Char.isDigit, between, Char.le_def,
    UInt32.le_iff_toNat_le]
  tauto

lemma isOctalDigit_eq : isOctalDigit = fun c => decide ('0' ≤ c) && decide (c ≤ '7') := by
  funext c
  rw [Bool.eq_iff_iff]
  simp [isOctalDigit, between, Char.le_def, UInt32.le_iff_toNat_le]

lemma isBinaryDigit_eq : isBinaryDigit = fun c => decide (c = '0') || decide (c = '1') := by
  funext c
  rw [Bool.eq_iff_iff]
  simp [isBinaryDigit, between, ← Char.toNat_inj]
  omega

lemma isBare_eq : Rules.isBare = Reader.isBare := by
  funext c
  rw [Bool.eq_iff_iff]
  have hupper : c.isUpper = decide (c.val ≥ 'A'.val ∧ c.val ≤ 'Z'.val) := rfl
  have hlower : c.isLower = (decide (c.val ≥ 'a'.val) && decide (c.val ≤ 'z'.val)) := rfl
  have halpha : c.isAlpha = (c.isUpper || c.isLower) := rfl
  simp [Rules.isBare, Reader.isBare, Rules.isDigit, Char.isAlphanum, halpha, hupper, hlower, Char.isDigit, between,
    ← Char.toNat_inj, UInt32.le_iff_toNat_le, UInt32.lt_iff_toNat_lt]
  omega

lemma digitOf_eq : digitOf = Reader.digitValue := by
  funext c
  have hd : Rules.isDigit c = c.isDigit := congrFun isDigit_eq c
  simp [digitOf, Reader.digitValue, hd, Char.le_def, UInt32.le_iff_toNat_le]

lemma numeral_eq : numeral = Reader.valueOf := by
  funext base digits
  rw [numeral, Nat.ofDigits_eq_foldr, List.map_reverse, List.foldr_reverse, List.foldl_map, digitOf_eq,
    Reader.valueOf]
  simp [Nat.add_comm, Nat.mul_comm]

end Classes

namespace Reader

lemma takes_blanks (hb : Made Rules.isBlank b) (hr : ∀ c ∈ rest.head?, Rules.isBlank c = false) :
    Takes blanks start b rest () :=
  (takes_all hb hr).map

lemma takes_comment (ht : Made isRemark text) (hr : ∀ c ∈ rest.head?, isRemark c = false) :
    Takes comment start ('#' :: text) rest () := by
  rw [isRemark_eq] at ht hr
  exact takes_char.cons (takes_all ht hr).map

lemma takes_newline {n : Text} (hn : Newline n) : Takes newline start n rest () := by
  cases hn with
  | lineFeed => exact takes_char.map.orElse
  | carriageReturn =>
    refine .otherwise (refuses_char (by simp)).bind ?_
    exact takes_char.cons takes_char.map

lemma refuses_newline (hr : rest.head? ≠ some '\n') (hr' : rest.head? ≠ some '\r') : Refuses newline rest :=
  (refuses_char hr).bind.orElse (refuses_char hr').bind

lemma isRemark_newline {n : Text} (hn : Newline n) : ∀ c ∈ (n ++ rest).head?, isRemark c = false := by
  cases hn <;> simp [isRemark, between, isNonAscii]

def GapEnds (rest : Text) : Prop := ∀ c ∈ rest.head?, isWhite c = false ∧ c ≠ '#'

lemma gap_rounds (hg : Spacing g) (hr : GapEnds rest) {n : ℕ} (hn : g.length ≤ n) :
    Takes (gap.rounds n) start g rest () := by
  induction hg generalizing start n with
  | @blanks b hb =>
    have hblank : ∀ c ∈ rest.head?, Rules.isBlank c = false := by
      intro c hc
      have := (hr c hc).1
      simp only [isWhite, Bool.or_eq_false_iff] at this
      exact this.1.1
    cases n with
    | zero => exact takes_blanks hb hblank
    | succ n =>
      refine (takes_blanks hb hblank).last (takes_peek.first ?_)
      rw [List.nil_append]
      split
      · rename_i h
        exact absurd rfl (hr _ h).2
      · rename_i h
        exact absurd (hr _ h).1 (by decide)
      · rename_i h
        exact absurd (hr _ h).1 (by decide)
      · exact takes_pure _ _ _
  | @line b comment n' g hb hc hn' _ ih =>
    simp only [List.length_append] at hn
    have hpos : 0 < n'.length := by cases hn' <;> simp
    obtain ⟨n, rfl⟩ := Nat.exists_eq_succ_of_ne_zero (by omega : n ≠ 0)
    have hnext : ∀ start, Takes (do newline; gap.rounds n) start (n' ++ g) rest () := by
      intro start
      exact (takes_newline hn').bind (ih (by omega))
    rw [List.append_assoc, List.append_assoc]
    refine (takes_blanks hb ?_).bind (takes_peek.first ?_)
    · cases hc with
      | none => cases hn' <;> simp [Rules.isBlank]
      | comment => simp [Rules.isBlank]
    · cases hc with
      | none =>
        have := hnext (start + byteLength b)
        cases hn' <;> exact this
      | comment ht =>
        refine (takes_comment ht ?_).bind (hnext _)
        rw [List.append_assoc]
        exact isRemark_newline hn'

lemma takes_gap (hg : Spacing g) (hr : GapEnds rest) : Takes gap start g rest () := by
  have hn : g.length ≤ (g ++ rest).length := by simp
  exact gap_rounds hg hr hn

lemma takes_codePoint {code : Text} {count : ℕ} (hl : code.length = count) (hc : Made Rules.isHexDigit code)
    (hv : (numeral 16 code).isValidChar) :
    Takes (codePoint count) start code rest (Char.ofNat (numeral 16 code)) := by
  rw [isHexDigit_eq] at hc
  rw [numeral_eq] at hv ⊢
  exact (takes_times hl hc).restrict (if_pos hv)

lemma takes_escaped {e : Text} {c : Char} (he : Escape e c) : Takes escaped start e rest c := by
  have hany : ∀ {start : ℕ} {text : Text} {d : Char}, Takes (one fun _ => true) start [d] text d := takes_one rfl
  cases he with
  | short hl hc hv => exact takes_char.cons (hany.cons (takes_codePoint hl hc hv).within.commit)
  | long hl hc hv => exact takes_char.cons (hany.cons (takes_codePoint hl hc hv).within.commit)
  | _ => exact takes_char.cons (hany.last (takes_pure _ _ _))

lemma head_escape {e : Text} {c : Char} (he : Escape e c) : ∃ tail, e = '\\' :: tail := by
  cases he <;> exact ⟨_, rfl⟩

lemma refuses_plain {tail : Text} {c : Char} (hc : isUnescaped c = false) : Refuses (some_ isPlain) (c :: tail) := by
  apply refuses_some
  simpa [← isUnescaped_eq] using hc

def basicUnit : Reader Text := orElse (some_ isPlain) (do return [← escaped])

lemma takes_basicUnits (ht : BasicChars text value) :
    TakesPieces basicUnit start text ('"' :: rest) value := by
  induction ht generalizing start with
  | nil =>
    exact takesPieces_nil ((refuses_plain (by decide)).orElse (refuses_char (by simp)).bind.bind)
  | plain hc _ ih =>
    rw [isUnescaped_eq] at hc
    exact ih.run hc
  | @escape e c text value he _ ih =>
    obtain ⟨tail, rfl⟩ := head_escape he
    have hpiece : Takes basicUnit start ('\\' :: tail) (text ++ '"' :: rest) [c] :=
      .otherwise (refuses_plain (by decide)) (takes_escaped he).map
    exact .cons hpiece (by simp) ih

lemma takes_basicString (ht : BasicChars text value) :
    Takes basicString start ('"' :: (text ++ ['"'])) rest value := by
  have hunits : TakesPieces basicUnit (start + byteLength ['"']) text ('"' :: rest) value := takes_basicUnits ht
  obtain ⟨pieces, hp, rfl⟩ := hunits
  exact takes_char.cons (hp.many.bind takes_char.within.commit.map)

lemma takes_literalString (ht : Made Rules.isLiteral text) :
    Takes literalString start ('\'' :: (text ++ ['\''])) rest text := by
  rw [isLiteral_eq] at ht
  refine Takes.within (takes_char.cons (.bind (takes_all ht ?_) takes_char.commit.map))
  simp [Reader.isLiteral]

def joint : Reader Unit := do
  let _ ← char '\\'
  blanks
  newlines

def white : Reader Unit := orElse newline (do let _ ← some_ isBlank)

lemma head_newline {n : Text} (hn : Newline n) : ∃ c tail, n = c :: tail ∧ isWhite c = true ∧
    Rules.isBlank c = false := by
  cases hn <;> exact ⟨_, _, rfl, rfl, rfl⟩

lemma takes_blanksAnd {more : Text} (hb : Made Rules.isBlank b)
    (hm : ∀ c ∈ (more ++ rest).head?, Rules.isBlank c = false)
    (k : ∃ units, TakesMany white (start + byteLength b) more rest units) :
    ∃ units, TakesMany white start (b ++ more) rest units := by
  obtain ⟨units, hu⟩ := k
  cases b with
  | nil => exact ⟨units, hu⟩
  | cons c b =>
    have hblank : isWhite c = true ∧ c ≠ '\n' ∧ c ≠ '\r' := by
      have hc : Rules.isBlank c = true := hb c List.mem_cons_self
      refine ⟨by simp [isWhite, hc], ?_, ?_⟩ <;> rintro rfl <;> cases hc
    have hpiece : Takes white start (c :: b) (more ++ rest) () := by
      refine .otherwise (refuses_newline ?_ ?_) (takes_some (by simp) hb hm).map
      · simpa using hblank.2.1
      · simpa using hblank.2.2
    exact ⟨() :: units, hu.cons hpiece (by simp)⟩

lemma takes_whites {w : Text} (hw : Whites w) (hr : ∀ c ∈ rest.head?, isWhite c = false) :
    ∃ units, TakesMany white start w rest units := by
  have hblank : ∀ c ∈ rest.head?, Rules.isBlank c = false ∧ c ≠ '\n' ∧ c ≠ '\r' := by
    intro c hc
    simpa [isWhite, and_assoc] using hr c hc
  have hends : Refuses white rest :=
    (refuses_newline (fun h => (hblank _ h).2.1 rfl) fun h => (hblank _ h).2.2 rfl).orElse
      (refuses_some fun c hc => (hblank c hc).1).bind
  induction hw generalizing start with
  | @blanks b hb =>
    have hall : ∃ units, TakesMany white start (b ++ []) rest units :=
      takes_blanksAnd hb (fun c hc => (hblank c hc).1) ⟨[], takesMany_nil hends⟩
    rwa [List.append_nil] at hall
  | @line b n w hb hn _ ih =>
    obtain ⟨c, tail, rfl, -, hc⟩ := head_newline hn
    obtain ⟨units, hu⟩ := @ih (start + byteLength b + byteLength (c :: tail))
    rw [List.append_assoc]
    refine takes_blanksAnd hb ?_ ⟨() :: units, hu.cons (takes_newline hn).orElse (by simp)⟩
    simpa using hc

lemma takes_joint {n w : Text} (hb : Made Rules.isBlank b) (hn : Newline n) (hw : Whites w)
    (hr : ∀ c ∈ rest.head?, isWhite c = false) : Takes joint start ('\\' :: b ++ n ++ w) rest () := by
  obtain ⟨units, hu⟩ : ∃ units, TakesMany white (start + byteLength ['\\'] + byteLength b + byteLength n) w rest
    units := takes_whites hw hr
  obtain ⟨c, tail, rfl, -, hc⟩ := head_newline hn
  rw [List.append_assoc, List.cons_append]
  refine takes_char.cons ((takes_blanks hb ?_).bind ((takes_newline hn).bind hu.many.map))
  simpa using hc

lemma refuses_joint {c : Char} {tail : Text} (hc : isWhite c = false) : Refuses joint ('\\' :: c :: tail) := by
  have hblank : Rules.isBlank c = false ∧ c ≠ '\n' ∧ c ≠ '\r' := by simpa [isWhite, and_assoc] using hc
  have hmark : ∀ start, Takes (char '\\') start ['\\'] (c :: tail) '\\' := fun _ => takes_char
  have hnone : ∀ start, Takes blanks start [] (c :: tail) () :=
    fun _ => takes_blanks (by simp [Made]) (by simpa using hblank.1)
  refine .later hmark (.later hnone (Refuses.bind (refuses_newline ?_ ?_)))
  · simpa using hblank.2.1
  · simpa using hblank.2.2

def basicPiece : Reader Text :=
  orElse (some_ isPlain) <| orElse (do joinedLines; return []) <| orElse (do return [← escaped]) newlineText

lemma refuses_basicPiece (tail : Text) : Refuses basicPiece ('"' :: tail) := by
  have hmark : ∀ c : Char, c ≠ '"' → Refuses (char c) ('"' :: tail) := fun c hc => refuses_char (by simpa using hc.symm)
  refine (refuses_plain (by decide)).orElse (.orElse ?_ (.orElse ?_ ?_))
  · exact (hmark '\\' (by decide)).bind.bind.bind
  · exact (hmark '\\' (by decide)).bind.bind
  · exact ((hmark '\n' (by decide)).bind.orElse (hmark '\r' (by decide)).bind).bind

def TakesJoined (start : ℕ) (text rest value : Text) : Prop :=
  Refuses joint (text ++ rest) ∧ TakesPieces basicPiece start text rest value ∨
  ∃ tail back units, text = '\\' :: tail ++ back ∧ units ≠ [] ∧
    TakesMany joint start ('\\' :: tail) (back ++ rest) units ∧
    TakesPieces basicPiece (start + byteLength ('\\' :: tail)) back rest value

lemma TakesJoined.pieces (h : TakesJoined start text rest value) : TakesPieces basicPiece start text rest value := by
  rcases h with ⟨-, h⟩ | ⟨tail, back, units, rfl, hn, hm, h⟩
  · exact h
  · obtain ⟨_, units, rfl⟩ := List.exists_cons_of_ne_nil hn
    obtain ⟨next, hfirst, hmore⟩ := hm.uncons
    have hall : Takes joinedLines start ('\\' :: tail) (back ++ rest) () :=
      (bind_done hfirst).trans ((bind_done hmore.many).trans rfl)
    have hjoined : Takes (do joinedLines; return [] : Reader Text) start ('\\' :: tail) (back ++ rest) [] := hall.map
    exact .cons (.otherwise (refuses_plain (by decide)) hjoined.orElse) (by simp) h

lemma takes_basicLines (ht : BasicLines text value) : TakesJoined start text ('"' :: rest) value := by
  induction ht generalizing start with
  | nil => exact .inl ⟨(refuses_char (by simp)).bind, takesPieces_nil (refuses_basicPiece rest)⟩
  | @plain c text value hc _ ih =>
    refine .inl ⟨(refuses_char ?_).bind, ih.pieces.run (isUnescaped_eq ▸ hc)⟩
    rintro h
    cases h
    cases hc
  | @escape e c text value he _ ih =>
    have hrefuses : Refuses joint (e ++ (text ++ '"' :: rest)) := by
      cases he <;> exact refuses_joint (by decide)
    obtain ⟨tail, rfl⟩ := head_escape he
    have hpiece : Takes basicPiece start ('\\' :: tail) (text ++ '"' :: rest) [c] :=
      .otherwise (refuses_plain (by decide)) (.otherwise hrefuses.bind.bind (takes_escaped he).map.orElse)
    refine .inl ⟨by rwa [List.append_assoc], .cons hpiece (by simp) ih.pieces⟩
  | @newline n text value hn _ ih =>
    obtain ⟨c, tail, rfl, hwhite, -⟩ := head_newline hn
    have hc : c ≠ '\\' ∧ isUnescaped c = false := by cases hn <;> decide
    have hmark : Refuses (char '\\') (c :: tail ++ (text ++ '"' :: rest)) := refuses_char (by simpa using hc.1)
    have hpiece : Takes basicPiece start (c :: tail) (text ++ '"' :: rest) ['\n'] :=
      .otherwise (refuses_plain hc.2)
        (.otherwise hmark.bind.bind.bind (.otherwise hmark.bind.bind ((takes_newline hn).last (takes_pure _ _ _))))
    refine .inl ⟨?_, .cons hpiece (by simp) ih.pieces⟩
    rw [List.append_assoc]
    exact hmark.bind
  | @joined b n w text value hb hn hw hhead _ ih =>
    have hjoint : Takes joint start ('\\' :: b ++ n ++ w) (text ++ '"' :: rest) () := by
      apply takes_joint hb hn hw
      cases text with
      | nil => simp [isWhite, Rules.isBlank]
      | cons => exact hhead
    right
    rcases @ih (start + byteLength ('\\' :: b ++ n ++ w)) with ⟨hr, hp⟩ | ⟨tail, back, units, rfl, -, hm, hp⟩
    · have hone : TakesMany joint start ('\\' :: b ++ n ++ w ++ []) (text ++ '"' :: rest) [()] :=
        .cons hjoint (by simp) (takesMany_nil hr)
      rw [List.append_nil] at hone
      exact ⟨b ++ n ++ w, text, [()], by simp, by simp, by simpa using hone, hp⟩
    · have hmore : TakesMany joint start ('\\' :: b ++ n ++ w ++ '\\' :: tail) (back ++ '"' :: rest) (() :: units) :=
        .cons (by simpa using hjoint) (by simp) hm
      refine ⟨b ++ n ++ w ++ '\\' :: tail, back, () :: units, by simp, by simp, by simpa using hmore, ?_⟩
      simpa [Nat.add_assoc] using hp

def literalPiece : Reader Text := orElse (some_ Reader.isLiteral) newlineText

lemma refuses_literalPiece (tail : Text) : Refuses literalPiece ('\'' :: tail) := by
  have hmark : ∀ c : Char, c ≠ '\'' → Refuses (char c) ('\'' :: tail) :=
    fun c hc => refuses_char (by simpa using hc.symm)
  refine (refuses_some (by simp [Reader.isLiteral])).orElse ?_
  exact ((hmark '\n' (by decide)).bind.orElse (hmark '\r' (by decide)).bind).bind

lemma takes_literalLines (ht : LiteralLines text value) : TakesPieces literalPiece start text ('\'' :: rest) value := by
  induction ht generalizing start with
  | nil => exact takesPieces_nil (refuses_literalPiece rest)
  | plain hc _ ih => exact ih.run (isLiteral_eq ▸ hc)
  | @newline n text value hn _ ih =>
    obtain ⟨c, tail, rfl, -, -⟩ := head_newline hn
    have hc : Rules.isLiteral c = false := by cases hn <;> decide
    have hpiece : Takes literalPiece start (c :: tail) (text ++ '\'' :: rest) ['\n'] := by
      refine .otherwise (refuses_some ?_) ((takes_newline hn).last (takes_pure _ _ _))
      simpa [← isLiteral_eq] using hc
    exact .cons hpiece (by simp) ih

section Long

variable {quote : Char} {next : Reader Unit}

lemma takes_twoQuotes {q : Place} (h : next ⟨rest, start + byteLength [quote, quote]⟩ = .done () q) :
    Takes (quotesBefore quote next) start [quote, quote] rest [quote, quote] := by
  refine Takes.orElse ((takes_exactly _ _).last ?_)
  exact (takes_ahead h).last (takes_pure _ _ _)

lemma takes_oneQuote {q : Place}
    (hr : Refuses (do exactly [quote, quote]; ahead next; return [quote, quote] : Reader Text) (quote :: rest))
    (h : next ⟨rest, start + byteLength [quote]⟩ = .done () q) :
    Takes (quotesBefore quote next) start [quote] rest [quote] := by
  refine .otherwise hr ((takes_exactly _ _).last ?_)
  exact (takes_ahead h).last (takes_pure _ _ _)

lemma refuses_twoQuotes (hr : Refuses next rest) :
    Refuses (do exactly [quote, quote]; ahead next; return [quote, quote] : Reader Text) (quote :: quote :: rest) := by
  have htwo : ∀ start, Takes (exactly [quote, quote]) start [quote, quote] rest () := fun _ => takes_exactly _ _
  exact .later htwo hr.ahead.bind

lemma refuses_quotesBefore (hr : Refuses next rest) (hr' : Refuses next (quote :: rest)) :
    Refuses (quotesBefore quote next) (quote :: quote :: rest) := by
  have hone : ∀ start, Takes (exactly [quote]) start [quote] (quote :: rest) () := fun _ => takes_exactly _ _
  exact (refuses_twoQuotes hr).orElse (.later hone hr'.ahead.bind)

variable {piece : Reader Text} {Content : Text → Text → Prop}

structure ReadsContent (quote : Char) (Content : Text → Text → Prop) (piece : Reader Text) : Prop where
  takes : ∀ {start : ℕ} {text value rest : Text}, Content text value →
    TakesPieces piece start text (quote :: rest) value
  refuses : ∀ tail, Refuses piece (quote :: tail)

def group (quote : Char) (piece : Reader Text) : Reader Text := do
  let quotes ← quotesBefore quote (do let _ ← piece)
  return quotes ++ (← many piece).flatten

lemma ReadsContent.head (h : ReadsContent quote Content piece) (ht : Content text value) :
    text.head? ≠ some quote := by
  intro hq
  obtain ⟨tail, rfl⟩ := List.head?_eq_some_iff.mp hq
  obtain ⟨_, next, hnext⟩ := (h.takes ht : TakesPieces piece 0 (quote :: tail) (quote :: []) value).front (by simp)
  obtain ⟨fault, hf⟩ := h.refuses (tail ++ [quote]) 0
  cases hnext.symm.trans hf

lemma ReadsContent.refuses_group (h : ReadsContent quote Content piece) (tail : Text) :
    Refuses (group quote piece) (quote :: quote :: quote :: tail) :=
  (refuses_quotesBefore (h.refuses tail).bind (h.refuses _).bind).bind

lemma ReadsContent.takes_group (h : ReadsContent quote Content piece) {q : Text} (hq : Quotes quote q)
    (ht : Content text value) (hn : text ≠ []) :
    Takes (group quote piece) start (q ++ text) (quote :: rest) (q ++ value) := by
  have hquotes : Takes (quotesBefore quote (do let _ ← piece)) start q (text ++ quote :: rest) q := by
    obtain ⟨p, next, hp⟩ :=
      (h.takes ht : TakesPieces piece (start + byteLength q) text (quote :: rest) value).front hn
    cases hq with
    | one =>
      refine takes_oneQuote (Refuses.bind (refuses_exactly ?_)) (bind_done hp)
      obtain ⟨c, text, rfl⟩ := List.exists_cons_of_ne_nil hn
      have hc := h.head ht
      simp only [List.head?_cons, ne_eq, Option.some.injEq] at hc
      simp [Ne.symm hc]
    | two => exact takes_twoQuotes (bind_done hp)
  obtain ⟨pieces, hp, rfl⟩ : TakesPieces piece (start + byteLength q) text (quote :: rest) value := h.takes ht
  exact hquotes.bind hp.many.map

lemma opens_longRest {tail more : Text} (hl : LongRest quote Content text tail) :
    ∃ t, text ++ quote :: more = quote :: t := by
  cases hl with
  | nil => exact ⟨more, rfl⟩
  | quotes hq => cases hq <;> exact ⟨_, rfl⟩
  | more hq => cases hq <;> exact ⟨_, rfl⟩

inductive LastQuotes (quote : Char) : Text → Prop
  | none : LastQuotes quote []
  | some {q : Text} : Quotes quote q → LastQuotes quote q

lemma ReadsContent.takes_groups (h : ReadsContent quote Content piece) {tail : Text}
    (hl : LongRest quote Content text tail) :
    ∃ front q groups, text = front ++ q ∧ tail = groups.flatten ++ q ∧ LastQuotes quote q ∧
      TakesMany (group quote piece) start front (q ++ [quote, quote, quote] ++ rest) groups := by
  induction hl generalizing start with
  | nil => exact ⟨[], [], [], rfl, rfl, .none, takesMany_nil (h.refuses_group rest)⟩
  | @quotes q hq =>
    refine ⟨[], q, [], rfl, rfl, .some hq, takesMany_nil ?_⟩
    cases hq <;> exact h.refuses_group _
  | @more q text value after tail hq hn ht hl ih =>
    obtain ⟨front, q', groups, rfl, rfl, hq', hm⟩ := @ih (start + byteLength (q ++ text))
    obtain ⟨t, hopens⟩ : ∃ t, front ++ q' ++ quote :: (quote :: quote :: rest) = quote :: t := opens_longRest hl
    refine ⟨q ++ text ++ front, q', (q ++ value) :: groups, by simp, by simp, hq', .cons ?_ ?_ hm⟩
    · have hafter : front ++ (q' ++ [quote, quote, quote] ++ rest) = quote :: t := by
        rw [← hopens]
        simp
      rw [hafter]
      exact h.takes_group hq ht hn
    · simp [hn]

lemma takes_lastQuotes {q : Text} (hq : LastQuotes quote q) (hr : rest.head? ≠ some quote) :
    ∃ last, last.getD [] = q ∧
      Takes (optional (quotesBefore quote (exactly [quote, quote, quote]))) start q
        ([quote, quote, quote] ++ rest) last := by
  have hshort : ∀ n, n < 3 → Refuses (exactly [quote, quote, quote]) (List.replicate n quote ++ rest) := by
    intro n hn
    apply refuses_exactly
    rcases rest with _ | ⟨c, rest⟩
    · intro hp
      have := hp.length_le
      simp at this
      omega
    · have hc : quote ≠ c := by simpa [eq_comm] using hr
      interval_cases n <;> simp [hc]
  have hends : exactly [quote, quote, quote] ⟨[quote, quote, quote] ++ rest, start + byteLength q⟩ =
      .done () ⟨rest, start + byteLength q + byteLength [quote, quote, quote]⟩ := takes_exactly _ _
  cases hq with
  | none => exact ⟨none, rfl, (refuses_quotesBefore (hshort 1 (by omega)) (hshort 2 (by omega))).optional⟩
  | some hq =>
    cases hq with
    | one => exact ⟨some [quote], rfl, (takes_oneQuote (refuses_twoQuotes (hshort 2 (by omega))) hends).optional⟩
    | two => exact ⟨some [quote, quote], rfl, (takes_twoQuotes hends).optional⟩

lemma ReadsContent.takes_longBody (h : ReadsContent quote Content piece) (hb : LongBody quote Content text value)
    (hr : rest.head? ≠ some quote) :
    Takes (longBody quote piece) start text ([quote, quote, quote] ++ rest) value := by
  obtain @⟨text, value, after, tail, ht, hl⟩ := hb
  obtain ⟨t, hopens⟩ : ∃ t, after ++ quote :: (quote :: quote :: rest) = quote :: t := opens_longRest hl
  obtain ⟨pieces, hp, rfl⟩ : TakesPieces piece start text (quote :: t) value := h.takes ht
  obtain ⟨front, q, groups, rfl, rfl, hq, hm⟩ :
    ∃ front q groups, after = front ++ q ∧ tail = groups.flatten ++ q ∧ LastQuotes quote q ∧
      TakesMany (group quote piece) (start + byteLength text) front (q ++ [quote, quote, quote] ++ rest) groups :=
    h.takes_groups hl
  obtain ⟨last, rfl, hlast⟩ : ∃ last, last.getD [] = q ∧
      Takes (optional (quotesBefore quote (exactly [quote, quote, quote])))
        (start + byteLength text + byteLength front) q ([quote, quote, quote] ++ rest) last :=
    takes_lastQuotes hq hr
  have hpieces : Takes (many piece) start text (front ++ last.getD [] ++ ([quote, quote, quote] ++ rest)) pieces := by
    rw [← hopens] at hp
    exact hp.many
  have hgroups : Takes (many (group quote piece)) (start + byteLength text) front
      (last.getD [] ++ ([quote, quote, quote] ++ rest)) groups := by
    rw [← List.append_assoc]
    exact hm.many
  have hall := hpieces.bind (f := fun first => do
    let later ← many (group quote piece)
    let last ← optional (quotesBefore quote (exactly [quote, quote, quote]))
    return first.flatten ++ later.flatten ++ last.getD []) (hgroups.bind hlast.map)
  rw [← List.append_assoc pieces.flatten]
  exact hall

lemma ReadsContent.takes_long (h : ReadsContent quote Content piece) (hl : Long quote Content text value)
    (hq : quote ≠ '\n' ∧ quote ≠ '\r') (hr : rest.head? ≠ some quote) :
    Takes (do
      exactly [quote, quote, quote]
      let _ ← optional newline
      let body ← commit (longBody quote piece)
      commit (exactly [quote, quote, quote])
      return body) start text rest value := by
  cases hl with
  | @plain body value hn hn' hb =>
    rw [List.append_assoc]
    refine (takes_exactly _ _).bind (Takes.first (Refuses.optional (refuses_newline ?_ ?_)) ?_)
    · cases body with
      | nil => simpa using hq.1
      | cons => exact hn
    · cases body with
      | nil => simpa using hq.2
      | cons => exact hn'
    · exact (h.takes_longBody hb hr).commit.bind (takes_exactly _ _).commit.map
  | @opened n body value hn hb =>
    rw [List.append_assoc, List.append_assoc]
    refine (takes_exactly _ _).bind ((takes_newline hn).optional.bind ?_)
    exact (h.takes_longBody hb hr).commit.bind (takes_exactly _ _).commit.map

end Long

lemma readsContent_basic : ReadsContent '"' BasicLines basicPiece :=
  ⟨fun ht => (takes_basicLines ht).pieces, refuses_basicPiece⟩

lemma readsContent_literal : ReadsContent '\'' LiteralLines literalPiece :=
  ⟨takes_literalLines, refuses_literalPiece⟩

lemma takes_longBasicString (hl : Long '"' BasicLines text value) (hr : rest.head? ≠ some '"') :
    Takes longBasicString start text rest value :=
  (readsContent_basic.takes_long hl (by decide) hr).within

lemma takes_longLiteralString (hl : Long '\'' LiteralLines text value) (hr : rest.head? ≠ some '\'') :
    Takes longLiteralString start text rest value :=
  (readsContent_literal.takes_long hl (by decide) hr).within

lemma head_basicChars (ht : BasicChars text value) : text.head? ≠ some '"' := by
  cases ht with
  | nil => simp
  | plain hc =>
    rintro h
    cases h
    cases hc
  | escape he =>
    obtain ⟨tail, rfl⟩ := head_escape he
    simp

lemma not_three_quotes {quote : Char} (ht : text.head? ≠ some quote) (hr : rest.head? ≠ some quote) :
    ¬ [quote, quote, quote] <+: quote :: (text ++ [quote]) ++ rest := by
  rcases text with _ | ⟨c, text⟩
  · rcases rest with _ | ⟨c, rest⟩
    · simp
    · simpa [eq_comm] using hr
  · have hc : quote ≠ c := by simpa [eq_comm] using ht
    simp [hc]

lemma takes_quoted (hq : Quoted text value) (hr : rest.head? ≠ some '"') (hr' : rest.head? ≠ some '\'') :
    Takes string start text rest value := by
  cases hq with
  | basic ht =>
    have hlong := refuses_exactly (not_three_quotes (head_basicChars ht) hr)
    exact .otherwise hlong.bind.explain (takes_basicString ht).orElse
  | literal ht =>
    have hhead : value.head? ≠ some '\'' := by
      intro h
      cases ht _ (List.mem_of_mem_head? h)
    have hlong := refuses_exactly (not_three_quotes hhead hr')
    refine .otherwise ?_ (.otherwise ?_ (.otherwise hlong.bind.explain (takes_literalString ht)))
    · exact (refuses_exactly (by simp)).bind.explain
    · exact (refuses_char (by simp)).bind

lemma takes_long_basic (hl : Long '"' BasicLines text value) (hr : rest.head? ≠ some '"') :
    Takes string start text rest value :=
  (takes_longBasicString hl hr).orElse

lemma head_long {quote : Char} {Lines : Text → Text → Prop} (hl : Long quote Lines text value) :
    ∃ tail, text = quote :: tail := by
  cases hl with
  | plain => exact ⟨_, rfl⟩
  | opened => exact ⟨_, rfl⟩

lemma takes_long_literal (hl : Long '\'' LiteralLines text value) (hr : rest.head? ≠ some '\'') :
    Takes string start text rest value := by
  obtain ⟨tail, rfl⟩ := head_long hl
  refine .otherwise ?_ (.otherwise ?_ (takes_longLiteralString hl hr).orElse)
  · exact (refuses_exactly (by simp)).bind.explain
  · exact (refuses_char (by simp)).bind

end Reader

end DeclSplit.Toml
