import DeclSplit.Proofs.Toml.Quotations

/-! Numbers, dates and times are read as they are spelled, and not for one another. -/

namespace DeclSplit.Toml

open Text Rules

variable {start : ℕ} {text digits s rest : Text} {negative : Bool}

def enders : List Char := ['\n', '\r', '#', ',', ']', '\x7d']

def bounds : List Char := ' ' :: '\t' :: enders

def Ends (rest : Text) : Prop :=
  ∃ b more, rest = b ++ more ∧ Made Rules.isBlank b ∧ ∀ c ∈ more.head?, c ∈ enders

namespace Ends

lemma head (h : Ends rest) : ∀ c ∈ rest.head?, c ∈ bounds := by
  obtain ⟨b, more, rfl, hb, hm⟩ := h
  intro c hc
  cases b with
  | nil => exact List.mem_cons_of_mem _ (List.mem_cons_of_mem _ (hm c hc))
  | cons d b =>
    cases hc
    have hd : Rules.isBlank c = true := hb c List.mem_cons_self
    have : c = ' ' ∨ c = '\t' := by simpa [Rules.isBlank] using hd
    rcases this with rfl | rfl <;> simp [bounds]

lemma apart (h : Ends rest) {p : Char → Bool}
    (hp : ∀ c ∈ bounds, p c = false) : ∀ c ∈ rest.head?, p c = false :=
  fun c hc => hp c (h.head c hc)

lemma ne (h : Ends rest) {c : Char} (hc : c ∉ bounds) :
    rest.head? ≠ some c :=
  fun he => hc (h.head c he)

lemma behind_blank {more : Text} (h : Ends (' ' :: more)) : Ends more := by
  obtain ⟨b, after, he, hb, ha⟩ := h
  cases b with
  | nil =>
    rw [List.nil_append] at he
    rw [← he] at ha
    exact absurd (ha ' ' rfl) (by decide)
  | cons c b =>
    obtain ⟨rfl, rfl⟩ := List.cons.inj he
    exact ⟨b, after, rfl, fun d hd => hb d (List.mem_cons_of_mem _ hd), ha⟩

end Ends

namespace Reader

variable {isMember : Char → Bool}

lemma takes_moreDigits (h : MoreDigits isMember text digits) (hu : isMember '_' = false)
    (hr : ∀ c ∈ rest.head?, isMember c = false) (hr' : rest.head? ≠ some '_') :
    Takes (moreDigits isMember) start text rest digits := by
  apply TakesMany.many
  induction h generalizing start with
  | nil => exact takesMany_nil ((refuses_one hr).orElse (refuses_char hr').bind)
  | @digit c text digits hc _ ih => exact ih.cons (takes_one hc).orElse (by simp)
  | @underscore c text digits hc _ ih =>
    have hunit : Takes (orElse (one isMember) (do let _ ← char '_'; commit (wanting .digit (one isMember))))
        start ['_', c] (text ++ rest) c :=
      .otherwise (refuses_one (by simpa using hu)) (takes_char.cons (takes_one hc).wanting.commit)
    exact ih.cons hunit (by simp)

lemma takes_digits (h : Digits isMember text digits) (hu : isMember '_' = false)
    (hr : ∀ c ∈ rest.head?, isMember c = false) (hr' : rest.head? ≠ some '_') :
    Takes (Reader.digits isMember) start text rest digits := by
  obtain ⟨hc, hm⟩ := h
  exact (takes_one hc).cons (takes_moreDigits hm hu hr hr').map

lemma takes_sign (hs : Sign s negative) (hr : rest.head? ≠ some '+') (hr' : rest.head? ≠ some '-') :
    Takes sign start s rest negative := by
  cases hs with
  | none =>
    refine Takes.last (Refuses.optional (refuses_one ?_)) (takes_pure _ _ _)
    intro c hc
    simp only [Bool.or_eq_false_iff, decide_eq_false_iff_not]
    constructor
    · rintro rfl
      exact hr hc
    · rintro rfl
      exact hr' hc
  | plus => exact (takes_one (by decide)).optional.last (takes_pure _ _ _)
  | minus => exact (takes_one (by decide)).optional.last (takes_pure _ _ _)

lemma isDigit_of_isLeadingDigit {c : Char} (hc : isLeadingDigit c = true) : Rules.isDigit c = true := by
  simp only [isLeadingDigit, Rules.isDigit, between, Bool.and_eq_true, decide_eq_true_eq] at hc ⊢
  omega

lemma head_whole (hw : Whole text digits) : ∃ c tail, text = c :: tail ∧ Rules.isDigit c = true := by
  cases hw with
  | digit hc => exact ⟨_, _, rfl, hc⟩
  | digits hc => exact ⟨_, _, rfl, isDigit_of_isLeadingDigit hc⟩

lemma ne_of_isDigit {c d : Char} (hc : Rules.isDigit c = true) (hd : Rules.isDigit d = false) : c ≠ d := by
  rintro rfl
  rw [hc] at hd
  cases hd

lemma takes_whole (hw : Whole text digits) (hr : ∀ c ∈ rest.head?, Rules.isDigit c = false)
    (hr' : rest.head? ≠ some '_') :
    Takes (orElse
      (do
        let first ← one fun c => '1' ≤ c && c ≤ '9'
        return first :: (← moreDigits Reader.isDigit))
      (do return [← one Reader.isDigit])) start text rest digits := by
  rw [← isLeadingDigit_eq, ← isDigit_eq]
  cases hw with
  | digits hc hm => exact ((takes_one hc).cons (takes_moreDigits hm (by decide) hr hr').map).orElse
  | @digit c hc =>
    by_cases hl : isLeadingDigit c = true
    · exact ((takes_one hl).cons (takes_moreDigits .nil (by decide) hr hr').map).orElse
    · refine .otherwise (Refuses.bind (refuses_one ?_)) (takes_one hc).map
      simpa using hl

lemma takes_decimal (hs : Sign s negative) (hw : Whole text digits)
    (hr : ∀ c ∈ rest.head?, Rules.isDigit c = false) (hr' : rest.head? ≠ some '_') :
    Takes decimal start (s ++ text) rest (negative, digits) := by
  obtain ⟨c, tail, rfl, hc⟩ := head_whole hw
  refine Takes.within (Takes.bind (takes_sign hs ?_ ?_) (takes_whole hw hr hr').map)
  · simpa using ne_of_isDigit hc rfl
  · simpa using ne_of_isDigit hc rfl

lemma bounded_signed {n : ℕ} (hn : Limits.reader.integer (signed negative n)) :
    bounded negative n = .ok (signed negative n) := by
  have hl : integerLimit = 9223372036854775808 := rfl
  obtain ⟨hlow, hhigh⟩ := hn
  cases negative with
  | true =>
    simp only [signed, if_true] at hlow hhigh ⊢
    simp only [bounded, hl, if_true]
    rw [if_pos (by omega)]
  | false =>
    simp only [signed, Bool.false_eq_true, if_false] at hlow hhigh ⊢
    simp only [bounded, hl, Bool.false_eq_true, if_false]
    rw [if_pos (by omega)]

lemma not_radix {mark : Char} (hs : Sign s negative) (hw : Whole text digits) (hr : rest.head? ≠ some mark) :
    ¬ ['0', mark] <+: s ++ text ++ rest := by
  cases hs with
  | plus => simp
  | minus => simp
  | none =>
    cases hw with
    | digit =>
      rintro ⟨more, h⟩
      obtain ⟨-, h⟩ := List.cons.inj h
      obtain rfl : mark :: more = rest := h
      exact hr rfl
    | digits hc =>
      rintro ⟨more, h⟩
      obtain ⟨rfl, -⟩ := List.cons.inj h
      cases hc

lemma match_not_radix (r r' r'' other : Reader ℤ) : (∀ mark ∈ ['x', 'o', 'b'], ¬ ['0', mark] <+: text) →
    (match text with
    | '0' :: 'x' :: _ => r
    | '0' :: 'o' :: _ => r'
    | '0' :: 'b' :: _ => r''
    | _ => other) = other := by
  intro h
  split
  · exact absurd ⟨_, rfl⟩ (h 'x' (by simp))
  · exact absurd ⟨_, rfl⟩ (h 'o' (by simp))
  · exact absurd ⟨_, rfl⟩ (h 'b' (by simp))
  · rfl

lemma takes_integer_decimal (hs : Sign s negative) (hw : Whole text digits)
    (hn : Limits.reader.integer (signed negative (numeral 10 digits))) (hr : Ends rest) :
    Takes integer start (s ++ text) rest (signed negative (numeral 10 digits)) := by
  rw [numeral_eq] at hn ⊢
  have hnot : ∀ mark ∈ ['x', 'o', 'b'], ¬ ['0', mark] <+: s ++ text ++ rest := by
    intro mark hm
    exact not_radix hs hw (hr.ne ((by decide : ∀ c ∈ ['x', 'o', 'b'], c ∉ _) mark hm))
  have hdecimal : Takes (restrict decimal fun read => bounded read.1 (valueOf 10 read.2)) start (s ++ text) rest
      (signed negative (valueOf 10 digits)) :=
    (takes_decimal hs hw (hr.apart (by decide)) (hr.ne (by decide))).restrict (bounded_signed hn)
  have hplace : place ⟨s ++ text ++ rest, start⟩ = .done ⟨s ++ text ++ rest, start⟩ ⟨s ++ text ++ rest, start⟩ := rfl
  rw [Takes, integer, bind_done hplace]
  refine (congrFun (match_not_radix _ _ _ _ hnot) _).trans ?_
  rw [Takes] at hdecimal
  rw [hdecimal]

lemma takes_based {mark : Text} {base : ℕ} {construct : Construct} (hd : Digits isMember text digits)
    (hu : isMember '_' = false) (hr : ∀ c ∈ rest.head?, isMember c = false) (hr' : rest.head? ≠ some '_')
    (hn : Limits.reader.integer (numeral base digits)) :
    Takes (based mark base isMember construct) start (mark ++ text) rest (numeral base digits) := by
  rw [numeral_eq] at hn ⊢
  refine Takes.commit (Takes.restrict (Takes.within ?_) (bounded_signed hn))
  exact (takes_exactly _ _).bind (takes_digits hd hu hr hr').commit

lemma takes_integer {n : ℤ} (hi : Integer text n) (hn : Limits.reader.integer n) (hr : Ends rest) :
    Takes integer start text rest n := by
  cases hi with
  | decimal hs hw => exact takes_integer_decimal hs hw hn hr
  | based hx hd =>
    have hr' : rest.head? ≠ some '_' := hr.ne (by decide)
    cases hx with
    | hexadecimal =>
      rw [isHexDigit_eq] at hd
      exact takes_place.first (takes_based hd (by decide) (hr.apart (by decide)) hr' hn)
    | octal =>
      rw [isOctalDigit_eq] at hd
      exact takes_place.first (takes_based hd (by decide) (hr.apart (by decide)) hr' hn)
    | binary =>
      rw [isBinaryDigit_eq] at hd
      exact takes_place.first (takes_based hd (by decide) (hr.apart (by decide)) hr' hn)

lemma takes_power {n : ℤ} (he : Exponent text n) (hr : Ends rest) : Takes power start text rest n := by
  obtain ⟨he, hs, hd⟩ := he
  rename_i e s text digits negative
  have hdigit : ∃ c tail, text = c :: tail ∧ Rules.isDigit c = true := by
    cases hd with
    | mk hc => exact ⟨_, _, rfl, hc⟩
  obtain ⟨c, tail, rfl, hc⟩ := hdigit
  rw [isDigit_eq] at hd
  rw [numeral_eq]
  have hdigits : Takes (commit (Reader.digits Reader.isDigit)) (start + byteLength [e] + byteLength s) (c :: tail) rest
      digits := (takes_digits hd (by decide) (hr.apart (by decide)) (hr.ne (by decide))).commit
  refine Takes.cons (takes_one ?_) (Takes.bind (takes_sign hs ?_ ?_) (hdigits.last (takes_pure _ _ _)))
  · rcases he with rfl | rfl <;> rfl
  · simpa using ne_of_isDigit hc rfl
  · simpa using ne_of_isDigit hc rfl

lemma takes_decimals {places : Text} (hd : Digits Rules.isDigit text places)
    (hr : ∀ c ∈ rest.head?, Rules.isDigit c = false) (hr' : rest.head? ≠ some '_') :
    Takes decimals start ('.' :: text) rest places := by
  rw [isDigit_eq] at hd hr
  exact takes_char.cons (takes_digits hd (by decide) hr hr').wanting.commit

def floatParts : Reader (Bool × Text × Text × Int) := do
  let (negative, whole) ← decimal
  orElse (do return (negative, whole, [], ← power))
    (do
      let places ← decimals
      return (negative, whole, places, (← optional power).getD 0))

lemma decimalFloat_eq (p : Place) : decimalFloat p =
    match floatParts p with
    | .done (negative, whole, places, exponent) next =>
      match Binary64.ofDecimal? (valueOf 10 (whole ++ places)) (exponent - places.length) with
      | some magnitude => .done (.finite negative magnitude) next
      | none => if negative then .done (.infinite true) next else .broken (Fault.at_ p.offset)
    | .refused f => .refused f
    | .broken f => .broken f :=
  rfl

lemma takes_decimalFloat {whole places : Text} {exponent : ℤ}
    (h : Takes floatParts start text rest (negative, whole, places, exponent))
    (hl : Limits.reader.float (nearest negative whole places exponent)) :
    Takes decimalFloat start text rest (nearest negative whole places exponent) := by
  rw [nearest, numeral_eq] at hl ⊢
  rw [Takes, decimalFloat_eq, h]
  cases hd : Binary64.ofDecimal? (valueOf 10 (whole ++ places)) (exponent - places.length) with
  | some magnitude => simp only [hd]
  | none =>
    rw [hd] at hl
    cases negative with
    | true => simp only [hd, if_true]
    | false => exact absurd rfl hl

lemma refuses_decimalFloat (h : Refuses floatParts text) : Refuses decimalFloat text := by
  intro start
  obtain ⟨fault, hf⟩ := h start
  exact ⟨fault, by rw [decimalFloat_eq, hf]⟩

lemma refuses_power (hr : rest.head? ≠ some 'e') (hr' : rest.head? ≠ some 'E') : Refuses power rest := by
  refine Refuses.bind (refuses_one ?_)
  intro c hc
  simp only [Bool.or_eq_false_iff, decide_eq_false_iff_not]
  constructor
  · rintro rfl
    exact hr hc
  · rintro rfl
    exact hr' hc

lemma apart_exponent {n : ℤ} (he : Exponent text n) (rest : Text) :
    (∀ c ∈ (text ++ rest).head?, Rules.isDigit c = false) ∧ (text ++ rest).head? ≠ some '_' := by
  obtain ⟨rfl | rfl, -, -⟩ := he
  · exact ⟨by rintro c ⟨⟩; rfl, by simp⟩
  · exact ⟨by rintro c ⟨⟩; rfl, by simp⟩

lemma takes_float_decimal {x : Float64} (hf : Rules.Float text x) (hl : Limits.reader.float x) (hr : Ends rest) :
    Takes float start text rest x := by
  refine Takes.within (Takes.orElse ?_)
  cases hf with
  | scaled hs hw he =>
    refine takes_decimalFloat ?_ hl
    obtain ⟨hd, hu⟩ := apart_exponent he rest
    exact (takes_decimal hs hw hd hu).bind (takes_power he hr).map.orElse
  | fraction hs hw hd =>
    refine takes_decimalFloat ?_ hl
    refine (takes_decimal hs hw (by simp; rfl) (by simp)).bind ?_
    refine .otherwise (Refuses.bind (refuses_power (by simp) (by simp))) ?_
    refine (takes_decimals hd (hr.apart (by decide)) (hr.ne (by decide))).last ?_
    exact (Refuses.optional (refuses_power (hr.ne (by decide)) (hr.ne (by decide)))).map
  | scaledFraction hs hw hd he =>
    refine takes_decimalFloat ?_ hl
    obtain ⟨hd', hu⟩ := apart_exponent he rest
    rw [List.append_assoc]
    refine (takes_decimal hs hw (by simp; rfl) (by simp)).bind ?_
    refine .otherwise (Refuses.bind (refuses_power (by simp) (by simp))) ?_
    exact (takes_decimals hd hd' hu).bind (takes_power he hr).optional.map

lemma takes_infinity : Takes infinity start "inf".toList rest (.infinite false) :=
  (takes_exactly _ _).last (takes_pure _ _ _)

lemma takes_notANumber : Takes notANumber start "nan".toList rest .notANumber :=
  (takes_exactly _ _).last (takes_pure _ _ _)

lemma takes_specialFloat {x : Float64} (hf : SpecialFloat text x) : Takes specialFloat start text rest x := by
  cases hf with
  | infinite hs =>
    refine (takes_sign hs (by simp) (by simp)).bind ?_
    exact takes_infinity.orElse.last (takes_pure _ _ _)
  | notANumber hs =>
    refine (takes_sign hs (by simp) (by simp)).bind ?_
    refine Takes.last (.otherwise (Refuses.bind (refuses_exactly ?_)) takes_notANumber) (takes_pure _ _ _)
    simp

lemma refuses_decimalFloat_behind (hs : Sign s negative)
    (ht : ∀ c ∈ text.head?, Rules.isDigit c = false ∧ c ∉ ['+', '-']) : Refuses decimalFloat (s ++ text) := by
  refine refuses_decimalFloat (Refuses.bind (Refuses.explain ?_))
  refine .later (fun start => takes_sign hs ?_ ?_) (Refuses.bind (Refuses.orElse ?_ ?_))
  · exact fun h => (ht '+' h).2 (by decide)
  · exact fun h => (ht '-' h).2 (by decide)
  · rw [← isLeadingDigit_eq]
    refine (refuses_one fun c hc => Bool.eq_false_iff.mpr fun hl => ?_).bind
    exact absurd (isDigit_of_isLeadingDigit hl) (by simp [(ht c hc).1])
  · rw [← isDigit_eq]
    exact (refuses_one fun c hc => (ht c hc).1).bind

lemma takes_float_special {x : Float64} (hf : SpecialFloat text x) : Takes float start text rest x := by
  refine Takes.within (.otherwise ?_ (takes_specialFloat hf))
  cases hf with
  | infinite hs =>
    rw [List.append_assoc]
    exact refuses_decimalFloat_behind hs (by rintro c ⟨⟩; decide)
  | notANumber hs =>
    rw [List.append_assoc]
    exact refuses_decimalFloat_behind hs (by rintro c ⟨⟩; decide)

lemma refuses_specialFloat (hs : Sign s negative) (hw : Whole text digits) :
    Refuses specialFloat (s ++ text ++ rest) := by
  obtain ⟨c, tail, rfl, hc⟩ := head_whole hw
  rw [List.append_assoc]
  refine Refuses.later (fun start => takes_sign hs ?_ ?_) (Refuses.bind ((Refuses.bind (refuses_exactly ?_)).orElse
    (Refuses.bind (refuses_exactly ?_))))
  · simpa using ne_of_isDigit hc rfl
  · simpa using ne_of_isDigit hc rfl
  · simpa using fun h : 'i' = c => absurd h.symm (ne_of_isDigit hc rfl)
  · simpa using fun h : 'n' = c => absurd h.symm (ne_of_isDigit hc rfl)

lemma refuses_float (hs : Sign s negative) (hw : Whole text digits)
    (hr : ∀ c ∈ rest.head?, Rules.isDigit c = false ∧ c ∉ ['_', '.', 'e', 'E']) :
    Refuses float (s ++ text ++ rest) := by
  have hne : ∀ c ∈ ['_', '.', 'e', 'E'], rest.head? ≠ some c := fun c hc h => (hr c h).2 hc
  refine Refuses.explain (Refuses.orElse ?_ (refuses_specialFloat hs hw))
  have hparts : Refuses floatParts (s ++ text ++ rest) :=
    .later (fun start => takes_decimal hs hw (fun c hc => (hr c hc).1) (hne '_' (by decide)))
      ((Refuses.bind (refuses_power (hne 'e' (by decide)) (hne 'E' (by decide)))).orElse
        (Refuses.bind (Refuses.bind (refuses_char (hne '.' (by decide))))))
  exact refuses_decimalFloat hparts

end Reader

end DeclSplit.Toml
