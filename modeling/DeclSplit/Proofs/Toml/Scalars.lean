import DeclSplit.Proofs.Toml.Numerals
import DeclSplit.Proofs.Toml.Tables

/-! Dates and times, and with them every value that has no other values in it. -/

namespace DeclSplit.Toml.Reader

open Text Rules

variable {start count least most n : ℕ} {text digits s rest : Text} {negative : Bool}

lemma takes_numberOf (h : Number count least most text n) : Takes (numberOf count) start text rest n := by
  obtain ⟨hl, hd, -, -⟩ := h
  rw [Made, isDigit_eq] at hd
  rw [numeral_eq]
  exact (takes_times hl hd).map

lemma takes_twoDigits (h : Number 2 least most text n) : Takes (twoDigits least most) start text rest n := by
  refine (takes_numberOf h).restrict ?_
  obtain ⟨-, -, hlow, hhigh⟩ := h
  simp [hlow, hhigh]

lemma isLeap_iff (year : ℕ) : isLeap year = true ↔ 4 ∣ year ∧ (100 ∣ year → 400 ∣ year) := by
  simp only [isLeap, Bool.and_eq_true, Bool.or_eq_true, decide_eq_true_eq]
  omega

lemma daysIn_eq : Rules.daysIn = Reader.daysIn := by
  funext year month
  unfold Rules.daysIn
  split <;> simp_all [Reader.daysIn, isLeap_iff]

lemma daysIn_le (year month : ℕ) : Reader.daysIn year month ≤ 31 := by
  rw [Reader.daysIn]
  split_ifs <;> omega

lemma takes_day {year month day : ℕ} (h : Number 2 1 (Rules.daysIn year month) text day) :
    Takes (restrict (twoDigits 1 31) fun day => if day ≤ Reader.daysIn year month then .ok day else .error .outOfRange)
      start text rest day := by
  rw [daysIn_eq] at h
  obtain ⟨hl, hd, hlow, hhigh⟩ := h
  exact (takes_twoDigits ⟨hl, hd, hlow, hhigh.trans (daysIn_le _ _)⟩).restrict (by simp [hhigh])

lemma takes_date (h : Date text) : Takes date start text rest () := by
  obtain ⟨hy, hm, hd⟩ := h
  rw [List.append_assoc]
  refine (takes_numberOf hy).bind (takes_char.cons (Takes.commit ?_))
  exact (takes_twoDigits hm).bind (takes_char.cons (takes_day hd).drop)

lemma takes_fraction (h : Fraction text) (hd : ∀ c ∈ rest.head?, Rules.isDigit c = false)
    (hp : rest.head? ≠ some '.') : Takes (do let _ ← optional fractionOfSecond) start text rest () := by
  cases h with
  | none => exact (Refuses.optional (Refuses.bind (refuses_char hp))).drop
  | some hn hm =>
    rw [Made, isDigit_eq] at hm
    rw [isDigit_eq] at hd
    exact (Takes.optional (takes_char.cons (takes_some hn hm hd).drop)).drop

lemma takes_time (h : Time text) (hd : ∀ c ∈ rest.head?, Rules.isDigit c = false) (hp : rest.head? ≠ some '.') :
    Takes time start text rest () := by
  obtain ⟨hh, hm, hs, hf⟩ := h
  simp only [List.append_assoc, List.cons_append]
  refine (takes_twoDigits hh).bind (takes_char.cons (Takes.commit ?_))
  exact (takes_twoDigits hm).bind (takes_char.cons ((takes_twoDigits hs).bind (takes_fraction hf hd hp)))

lemma takes_timeOffset (h : Offset text) (hr : Ends rest) :
    Takes (do let _ ← optional timeOffset) start text rest () := by
  cases h with
  | none =>
    refine (Refuses.optional (Refuses.explain (Refuses.orElse ?_ ?_))).drop
    · exact (refuses_one (hr.apart (by decide))).bind
    · exact (refuses_one (hr.apart (by decide))).bind
  | zero hc =>
    refine (Takes.optional (Takes.within (Takes.orElse (Takes.drop (takes_one ?_))))).drop
    simpa using hc
  | @shifted c h m hour minute hc hh hm =>
    have hoffset : Takes timeOffset start (c :: h ++ ':' :: m) rest () := by
      refine Takes.within (Takes.otherwise (Refuses.bind (refuses_one ?_)) (Takes.cons (takes_one ?_)
        (Takes.commit ?_)))
      · rcases hc with rfl | rfl <;> simp
      · simpa using hc
      · exact (takes_twoDigits hh).bind (takes_char.cons (takes_twoDigits hm).drop)
    exact hoffset.optional.drop

lemma refuses_numberOf (h : ∀ c ∈ text.head?, Rules.isDigit c = false) (hc : count ≠ 0) :
    Refuses (numberOf count) text := by
  rw [isDigit_eq] at h
  refine Refuses.bind (refuses_times ?_)
  cases text with
  | nil => simpa using hc.symm
  | cons c text =>
    obtain ⟨count, rfl⟩ := Nat.exists_eq_succ_of_ne_zero hc
    simp [h c rfl]

lemma refuses_twoDigits (h : ∀ c ∈ text.head?, Rules.isDigit c = false) : Refuses (twoDigits least most) text :=
  (refuses_numberOf h (by decide)).restrict

lemma apart_offset (h : Offset text) (hr : Ends rest) : ∀ c ∈ (text ++ rest).head?,
    Rules.isDigit c = false ∧ c ≠ '.' := by
  cases h with
  | none => exact fun c hc => ⟨hr.apart (by decide) c hc, fun he => hr.ne (by decide) (he ▸ hc)⟩
  | zero hc => rcases hc with rfl | rfl <;> exact fun c hc => by cases hc; decide
  | shifted hc => rcases hc with rfl | rfl <;> exact fun c hc => by cases hc; decide

lemma refuses_timeBehind (hr : Ends rest) : Refuses (do
    let _ ← one fun c => c = 'T' || c = 't' || c = ' '
    time
    let _ ← optional timeOffset) rest := by
  cases rest with
  | nil => exact (refuses_one (by simp)).bind
  | cons c more =>
    by_cases hc : c = ' '
    · subst hc
      have htime : Refuses time more := (refuses_twoDigits (hr.behind_blank.apart (by decide))).bind
      exact Refuses.later (fun start => takes_one (by decide)) htime.bind
    · refine (refuses_one ?_).bind
      have hne : c ∈ bounds := hr.head c rfl
      have hT : c ≠ 'T' := ne_of_mem_of_not_mem hne (by decide)
      have ht : c ≠ 't' := ne_of_mem_of_not_mem hne (by decide)
      simpa using ⟨⟨hT, ht⟩, hc⟩

lemma refuses_date_of_time (h : Time text) : Refuses date (text ++ rest) := by
  obtain ⟨⟨hl, -, -, -⟩, -, -, -⟩ := h
  obtain ⟨a, b, rfl⟩ := List.length_eq_two.mp hl
  refine Refuses.bind (Refuses.bind (refuses_times ?_))
  have hcolon : isDigit ':' = false := rfl
  simp only [List.cons_append, List.nil_append, List.take_succ_cons, List.takeWhile_cons, hcolon]
  split_ifs <;> simp_all

lemma takes_moment (h : Moment text) (hr : Ends rest) : Takes moment start text rest () := by
  cases h with
  | date hd => exact Takes.orElse (Takes.within ((takes_date hd).last (refuses_timeBehind hr).optional.drop))
  | time ht =>
    refine .otherwise (Refuses.explain (refuses_date_of_time ht).bind) (Takes.within (takes_time ht ?_ ?_))
    · exact hr.apart (by decide)
    · exact hr.ne (by decide)
  | @dateTime c date time offset hd hc ht ho =>
    have hbehind := apart_offset ho hr
    have htime : Takes (do
        let _ ← one fun c => c = 'T' || c = 't' || c = ' '
        Reader.time
        let _ ← optional timeOffset) (start + byteLength date) (c :: time ++ offset) rest () := by
      refine Takes.cons (takes_one ?_) ((takes_time ht ?_ ?_).bind (takes_timeOffset ho hr))
      · simpa [or_assoc] using hc
      · exact fun c hc => (hbehind c hc).1
      · exact fun he => (hbehind '.' he).2 rfl
    rw [List.append_assoc]
    exact Takes.orElse (Takes.within ((takes_date hd).bind htime.optional.drop))

inductive Undated : Text → Prop
  | stop {text : Text} : (∀ c ∈ text.head?, Rules.isDigit c = false ∧ c ∉ ['-', ':']) → Undated text
  | digit {c : Char} {text : Text} : Rules.isDigit c = true → Undated text → Undated (c :: text)

lemma Undated.ne {c : Char} (h : Undated text) (hc : c ∈ ['-', ':']) : text.head? ≠ some c := by
  cases h with
  | stop hs => exact fun he => (hs c he).2 hc
  | digit hd =>
    rintro ⟨⟩
    exact absurd hd ((by decide : ∀ c ∈ ['-', ':'], ¬ Rules.isDigit c = true) c hc)

lemma Undated.drop (h : Undated text) (n : ℕ) (hd : Made Rules.isDigit (text.take n)) : Undated (text.drop n) := by
  induction n generalizing text with
  | zero => exact h
  | succ n ih =>
    cases h with
    | @stop text hs =>
      cases text with
      | nil => exact .stop hs
      | cons c text => exact absurd (hd c (by simp)) (by simp [(hs c rfl).1])
    | digit _ hm => exact ih hm fun c hc => hd c (by simp [hc])

lemma refuses_or_takes_numberOf (count : ℕ) (text : Text) : Refuses (numberOf count) text ∨
    Made Rules.isDigit (text.take count) ∧
      ∃ n, ∀ start, Takes (numberOf count) start (text.take count) (text.drop count) n := by
  by_cases hl : ((text.take count).takeWhile isDigit).length = count
  · right
    have hfront : (text.take count).takeWhile isDigit <+: text.take count := List.takeWhile_prefix isDigit
    have hlength : (text.take count).length = count := by
      have hle := hfront.length_le
      simp only [List.length_take] at hle ⊢
      omega
    have htake : (text.take count).takeWhile isDigit = text.take count :=
      hfront.eq_of_length (hl.trans hlength.symm)
    have hd : ∀ c ∈ text.take count, isDigit c = true := List.takeWhile_eq_self_iff.mp htake
    rw [Made, isDigit_eq]
    exact ⟨hd, valueOf 10 (text.take count), fun start => (takes_times hlength hd).map⟩
  · exact .inl (refuses_times hl).bind

lemma Undated.refuses_date (h : Undated text) : Refuses date text := by
  obtain hr | ⟨hd, n, ht⟩ := refuses_or_takes_numberOf 4 text
  · exact hr.bind
  · have hdash : Refuses (char '-') (text.drop 4) := refuses_char ((h.drop 4 hd).ne (by decide))
    have hrefuses : Refuses date (text.take 4 ++ text.drop 4) := .later ht hdash.bind
    rwa [List.take_append_drop] at hrefuses

lemma Undated.refuses_time (h : Undated text) : Refuses time text := by
  obtain hr | ⟨hd, n, ht⟩ := refuses_or_takes_numberOf 2 text
  · exact (Refuses.restrict hr).bind
  · by_cases hn : n ≤ 23
    · have hcolon : Refuses (char ':') (text.drop 2) := refuses_char ((h.drop 2 hd).ne (by decide))
      have hrefuses : Refuses time (text.take 2 ++ text.drop 2) :=
        .later (fun start => (ht start).restrict (if_pos (by simpa using hn))) hcolon.bind
      rwa [List.take_append_drop] at hrefuses
    · have hrefuses : Refuses (twoDigits 0 23) (text.take 2 ++ text.drop 2) :=
        .restricted ht (if_neg (by simpa using hn))
      rw [List.take_append_drop] at hrefuses
      exact hrefuses.bind

lemma refuses_moment (hs : Sign s negative) (h : Undated text) : Refuses moment (s ++ text) := by
  cases hs with
  | none => exact (Refuses.explain h.refuses_date.bind).orElse h.refuses_time.explain
  | plus =>
    have hd : ∀ c ∈ ('+' :: text).head?, Rules.isDigit c = false := by rintro c ⟨⟩; rfl
    exact (Refuses.explain (refuses_numberOf hd (by decide)).bind.bind).orElse (refuses_twoDigits hd).bind.explain
  | minus =>
    have hd : ∀ c ∈ ('-' :: text).head?, Rules.isDigit c = false := by rintro c ⟨⟩; rfl
    exact (Refuses.explain (refuses_numberOf hd (by decide)).bind.bind).orElse (refuses_twoDigits hd).bind.explain

lemma undated_moreDigits (h : MoreDigits Rules.isDigit text digits) (hr : Undated rest) :
    Undated (text ++ rest) := by
  induction h with
  | nil => exact hr
  | digit hc _ ih => exact .digit hc ih
  | underscore => exact .stop (by rintro c ⟨⟩; decide)

lemma undated_whole (h : Whole text digits) (hr : Undated rest) : Undated (text ++ rest) := by
  cases h with
  | digit hc => exact .digit hc hr
  | digits hc hm => exact .digit (isDigit_of_isLeadingDigit hc) (undated_moreDigits hm hr)

lemma Ends.undated (hr : Ends rest) : Undated rest :=
  .stop fun c hc => (by decide : ∀ c ∈ bounds,
    Rules.isDigit c = false ∧ c ∉ ['-', ':']) c (hr.head c hc)

lemma refuses_moment_integer {n : ℤ} (hi : Integer text n) (hr : Ends rest) : Refuses moment (text ++ rest) := by
  cases hi with
  | decimal hs hw =>
    rw [List.append_assoc]
    exact refuses_moment hs (undated_whole hw (Ends.undated hr))
  | @based mark text digits _ _ hx hd =>
    have hundated : Undated (mark ++ text ++ rest) := by
      cases hx <;> exact .digit rfl (.stop (by rintro c ⟨⟩; decide))
    exact (refuses_moment .none hundated : Refuses moment ([] ++ _))

lemma refuses_float_integer {n : ℤ} (hi : Integer text n) (hr : Ends rest) : Refuses float (text ++ rest) := by
  cases hi with
  | decimal hs hw =>
    refine refuses_float hs hw fun c hc => ?_
    exact (by decide : ∀ c ∈ bounds,
      Rules.isDigit c = false ∧ c ∉ ['_', '.', 'e', 'E']) c (hr.head c hc)
  | @based mark text digits _ _ hx hd =>
    have hfloat : ∀ c ∈ ['x', 'o', 'b'], Refuses float ([] ++ ['0'] ++ (c :: (text ++ rest))) := by
      intro c hc
      refine refuses_float .none (.digit rfl) ?_
      rintro d ⟨⟩
      exact (by decide : ∀ c ∈ ['x', 'o', 'b'], Rules.isDigit c = false ∧ c ∉ ['_', '.', 'e', 'E']) c hc
    cases hx with
    | hexadecimal => exact hfloat 'x' (by decide)
    | octal => exact hfloat 'o' (by decide)
    | binary => exact hfloat 'b' (by decide)

lemma refuses_moment_float {x : Float64} (hf : Rules.Float text x) (rest : Text) :
    Refuses moment (text ++ rest) := by
  cases hf with
  | scaled hs hw he =>
    rw [List.append_assoc, List.append_assoc]
    refine refuses_moment hs (undated_whole hw (.stop ?_))
    obtain ⟨rfl | rfl, -, -⟩ := he <;> (rintro c ⟨⟩; decide)
  | fraction hs hw =>
    rw [List.append_assoc, List.append_assoc]
    exact refuses_moment hs (undated_whole hw (.stop (by rintro c ⟨⟩; decide)))
  | scaledFraction hs hw =>
    simp only [List.append_assoc]
    exact refuses_moment hs (undated_whole hw (.stop (by rintro c ⟨⟩; decide)))

def isNumeric (c : Char) : Bool := c = '+' || c = '-' || c.isDigit

def Numeric (text : Text) : Prop := ∃ c tail, text = c :: tail ∧ isNumeric c = true

lemma Numeric.append (h : Numeric text) (more : Text) : Numeric (text ++ more) := by
  obtain ⟨c, tail, rfl, hc⟩ := h
  exact ⟨c, tail ++ more, rfl, hc⟩

lemma numeric_of_isDigit {c : Char} (hc : Rules.isDigit c = true) (tail : Text) : Numeric (c :: tail) := by
  rw [isDigit_eq] at hc
  have hd : c.isDigit = true := hc
  exact ⟨c, tail, rfl, by simp [isNumeric, hd]⟩

lemma numeric_whole (hs : Sign s negative) (hw : Whole text digits) : Numeric (s ++ text) := by
  obtain ⟨c, tail, rfl, hc⟩ := head_whole hw
  cases hs with
  | none => exact numeric_of_isDigit hc _
  | plus => exact ⟨_, _, rfl, rfl⟩
  | minus => exact ⟨_, _, rfl, rfl⟩

lemma numeric_integer {n : ℤ} (h : Integer text n) : Numeric text := by
  cases h with
  | decimal hs hw => exact numeric_whole hs hw
  | based hx => cases hx <;> exact ⟨_, _, rfl, rfl⟩

lemma numeric_float {x : Float64} (h : Rules.Float text x) : Numeric text := by
  cases h with
  | scaled hs hw => exact (numeric_whole hs hw).append _
  | fraction hs hw => exact (numeric_whole hs hw).append _
  | scaledFraction hs hw => exact ((numeric_whole hs hw).append _).append _

lemma numeric_number (h : Number count least most text n) (hc : count ≠ 0) : Numeric text := by
  obtain ⟨hl, hd, -, -⟩ := h
  cases text with
  | nil => exact absurd hl.symm hc
  | cons c text => exact numeric_of_isDigit (hd c List.mem_cons_self) _

lemma numeric_moment (h : Moment text) : Numeric text := by
  cases h with
  | date hd =>
    obtain ⟨hy, -, -⟩ := hd
    exact ((numeric_number hy (by decide)).append _).append _
  | time ht =>
    obtain ⟨hh, -, -, -⟩ := ht
    exact (((numeric_number hh (by decide)).append _).append _).append _
  | dateTime hd =>
    obtain ⟨hy, -, -⟩ := hd
    exact ((((numeric_number hy (by decide)).append _).append _).append _).append _

def numeric : Reader (Span → Item) :=
  orElse (do moment; return .moment) (orElse (do return .float (← float)) (do return .integer (← integer)))

lemma takes_scalar_numeric {make : Span → Item} (hc : Numeric text) (h : Takes numeric start text rest make) :
    Takes scalar start text rest make := by
  obtain ⟨c, tail, rfl, hc⟩ := hc
  have hquote : ¬ (decide (c = '"') || decide (c = '\'')) = true := by
    simp only [Bool.or_eq_true, decide_eq_true_eq]
    rintro (rfl | rfl) <;> cases hc
  refine takes_peek.first ?_
  simp only [List.cons_append, List.head?_cons]
  rw [isNumeric] at hc
  rw [if_neg hquote, if_pos hc]
  exact h

lemma takes_scalar_string {c : Char} {value : Text} (hc : c = '"' ∨ c = '\'')
    (h : Takes string start (c :: text) rest value) : Takes scalar start (c :: text) rest (.string value) := by
  refine takes_peek.first ?_
  simp only [List.cons_append, List.head?_cons]
  rw [if_pos (by simpa using hc)]
  exact h.map

lemma Takes.word {α : Type} {r : Reader α} {a : α} (h : Takes r start text rest a) :
    Takes (word r) start text rest a :=
  h.within.wanting.wanting

lemma takes_numeric_special {x : Float64} (hf : SpecialFloat text x) :
    Takes numeric start text rest (.float x) := by
  refine .otherwise (Refuses.bind ?_) (takes_float_special hf).map.orElse
  cases hf with
  | infinite hs =>
    rw [List.append_assoc]
    exact refuses_moment hs (.stop (by rintro c ⟨⟩; decide))
  | notANumber hs =>
    rw [List.append_assoc]
    exact refuses_moment hs (.stop (by rintro c ⟨⟩; decide))

lemma takes_scalar_special {x : Float64} (hf : SpecialFloat text x) : Takes scalar start text rest (.float x) := by
  have hnumeric : Takes numeric start text rest (.float x) := takes_numeric_special hf
  cases hf with
  | infinite hs =>
    cases hs with
    | none => exact takes_peek.first (Takes.map takes_infinity.word)
    | plus => exact takes_scalar_numeric ⟨_, _, rfl, rfl⟩ hnumeric
    | minus => exact takes_scalar_numeric ⟨_, _, rfl, rfl⟩ hnumeric
  | notANumber hs =>
    cases hs with
    | none => exact takes_peek.first (Takes.map takes_notANumber.word)
    | plus => exact takes_scalar_numeric ⟨_, _, rfl, rfl⟩ hnumeric
    | minus => exact takes_scalar_numeric ⟨_, _, rfl, rfl⟩ hnumeric

lemma takes_scalar_quoted {value : Text} (hq : Quoted text value) (hr : Ends rest) :
    Takes scalar start text rest (.string value) := by
  have hstring : Takes string start text rest value := takes_quoted hq (hr.ne (by decide)) (hr.ne (by decide))
  cases hq with
  | basic => exact takes_scalar_string (.inl rfl) hstring
  | literal => exact takes_scalar_string (.inr rfl) hstring

lemma takes_scalar (start : ℕ) {m : Meaning} (h : Scalar Limits.reader text m) (hr : Ends rest) :
    ∃ make : Span → Item, (∀ span, (make span).Means m) ∧ Takes scalar start text rest make := by
  cases h with
  | quoted hq => exact ⟨_, .string _, takes_scalar_quoted hq hr⟩
  | longBasic hl =>
    obtain ⟨tail, rfl⟩ := head_long hl
    exact ⟨_, .string _, takes_scalar_string (.inl rfl) (takes_long_basic hl (hr.ne (by decide)))⟩
  | longLiteral hl =>
    obtain ⟨tail, rfl⟩ := head_long hl
    exact ⟨_, .string _, takes_scalar_string (.inr rfl) (takes_long_literal hl (hr.ne (by decide)))⟩
  | yes => exact ⟨_, .boolean _, takes_peek.first (Takes.last (takes_exactly _ _).commit.word (takes_pure _ _ _))⟩
  | no => exact ⟨_, .boolean _, takes_peek.first (Takes.last (takes_exactly _ _).commit.word (takes_pure _ _ _))⟩
  | integer hi hn =>
    refine ⟨_, .integer _, takes_scalar_numeric (numeric_integer hi) ?_⟩
    refine .otherwise (refuses_moment_integer hi hr).bind (.otherwise (refuses_float_integer hi hr).bind ?_)
    exact (takes_integer hi hn hr).map
  | float hf hl =>
    refine ⟨_, .float _, takes_scalar_numeric (numeric_float hf) ?_⟩
    exact .otherwise (refuses_moment_float hf rest).bind (takes_float_decimal hf hl hr).map.orElse
  | specialFloat hf => exact ⟨_, .float _, takes_scalar_special hf⟩
  | moment hm =>
    refine ⟨_, .moment, takes_scalar_numeric (numeric_moment hm) (Takes.orElse ?_)⟩
    exact (takes_moment hm hr).last (takes_pure Item.moment _ _)

end DeclSplit.Toml.Reader
