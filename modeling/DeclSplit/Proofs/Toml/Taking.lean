import DeclSplit.Proofs.Text.Pieces
import DeclSplit.Toml.Blank
import Mathlib.Data.List.TakeWhile

/-! What readers take and what they refuse, for each way of building them. -/

namespace DeclSplit.Toml

open Text

scoped instance (priority := high) decidableOnChars (p : Char → Prop) [DecidablePred p] (l : List Char) :
    Decidable (∀ c ∈ l, p c) :=
  List.decidableBAll p l

namespace Reader

variable {α β : Type} {r other : Reader α} {f : α → Reader β} {a : α} {b : β} {p : Char → Bool}
  {start : ℕ} {text more rest : Text} {c : Char}

/-- Where the text stands in front of the rest, the reader takes it and leaves the rest. -/
def Takes (r : Reader α) (start : ℕ) (text rest : Text) (a : α) : Prop :=
  r ⟨text ++ rest, start⟩ = .done a ⟨rest, start + byteLength text⟩

def Refuses (r : Reader α) (text : Text) : Prop := ∀ start, ∃ fault, r ⟨text, start⟩ = .refused fault

lemma bind_done {p q : Place} (h : r p = .done a q) : (r >>= f) p = f a q := by
  simp only [bind, h]

lemma bind_refused {p : Place} {fault : Fault} (h : r p = .refused fault) : (r >>= f) p = .refused fault := by
  simp only [bind, h]

lemma takes_pure (a : α) (start : ℕ) (rest : Text) : Takes (pure a) start [] rest a := rfl

lemma Takes.bind (h : Takes r start text (more ++ rest) a) (k : Takes (f a) (start + byteLength text) more rest b) :
    Takes (r >>= f) start (text ++ more) rest b := by
  rw [Takes, List.append_assoc, bind_done h, k, byteLength_append, Nat.add_assoc]

lemma Takes.cons (h : Takes r start [c] (more ++ rest) a) (k : Takes (f a) (start + byteLength [c]) more rest b) :
    Takes (r >>= f) start (c :: more) rest b :=
  h.bind k

lemma Takes.first (h : Takes r start [] (text ++ rest) a) (k : Takes (f a) start text rest b) :
    Takes (r >>= f) start text rest b :=
  h.bind k

lemma Takes.last (h : Takes r start text rest a) (k : Takes (f a) (start + byteLength text) [] rest b) :
    Takes (r >>= f) start text rest b := by
  have hb : Takes (r >>= f) start (text ++ []) rest b := h.bind k
  rwa [List.append_nil] at hb

lemma Takes.map {g : α → β} (h : Takes r start text rest a) : Takes (do return g (← r)) start text rest (g a) :=
  h.last (takes_pure _ _ _)

lemma Takes.drop (h : Takes r start text rest a) : Takes (do let _ ← r) start text rest () := h.map

lemma Takes.orElse (h : Takes r start text rest a) : Takes (orElse r other) start text rest a := by
  rw [Takes, Reader.orElse, h]

lemma Takes.otherwise (hr : Refuses r (text ++ rest)) (h : Takes other start text rest a) :
    Takes (Reader.orElse r other) start text rest a := by
  obtain ⟨fault, hf⟩ := hr start
  rw [Takes, Reader.orElse, hf]
  exact h

lemma Takes.optional (h : Takes r start text rest a) : Takes (optional r) start text rest (some a) :=
  h.map.orElse

lemma Takes.commit (h : Takes r start text rest a) : Takes (commit r) start text rest a := by
  rw [Takes, Reader.commit, h]

lemma Takes.explain {change : Fault → Fault} (h : Takes r start text rest a) :
    Takes (explain change r) start text rest a := by
  rw [Takes, Reader.explain, h]

lemma Takes.within {construct : Construct} (h : Takes r start text rest a) :
    Takes (within construct r) start text rest a :=
  h.explain

lemma Takes.wanting {wanted : Wanted} (h : Takes r start text rest a) : Takes (wanting wanted r) start text rest a :=
  h.explain

lemma Takes.restrict {check : α → Except Cause β} (h : Takes r start text rest a) (hc : check a = .ok b) :
    Takes (restrict r check) start text rest b := by
  rw [Takes, Reader.restrict, h]
  simp only [hc]

lemma takes_ahead {q : Place} (h : r ⟨rest, start⟩ = .done a q) : Takes (ahead r) start [] rest a := by
  rw [Takes, Reader.ahead, List.nil_append, h]
  rfl

lemma takes_peek : Takes peek? start [] rest rest.head? := rfl

lemma takes_place : Takes place start [] rest ⟨rest, start⟩ := rfl

lemma Takes.located (h : Takes r start text rest a) :
    Takes (located r) start text rest (a, ⟨start, start + byteLength text⟩) := by
  have hstop : Takes (do let stop ← place; return (a, ⟨start, stop.offset⟩) : Reader (α × Span))
      (start + byteLength text) [] rest (a, ⟨start, start + byteLength text⟩) := rfl
  exact takes_place.first (h.last hstop)

lemma takes_one (hc : p c = true) : Takes (one p) start [c] rest c := by
  simp [Takes, one, hc]

lemma takes_char : Takes (char c) start [c] rest c := takes_one (by simp)

lemma takes_exactly (text rest : Text) : Takes (exactly text) start text rest () := by
  simp [Takes, exactly]

lemma takeWhile_append (ht : ∀ c ∈ text, p c = true) (hr : ∀ c ∈ rest.head?, p c = false) :
    (text ++ rest).takeWhile p = text := by
  rw [List.takeWhile_append_of_pos ht]
  cases rest with
  | nil => simp
  | cons c rest => simp [hr c rfl]

lemma takes_all (ht : ∀ c ∈ text, p c = true) (hr : ∀ c ∈ rest.head?, p c = false) :
    Takes (all p) start text rest text := by
  simp only [Takes, all, takeWhile_append ht hr, List.drop_left]

lemma takes_some (hn : text ≠ []) (ht : ∀ c ∈ text, p c = true) (hr : ∀ c ∈ rest.head?, p c = false) :
    Takes (some_ p) start text rest text := by
  obtain ⟨c, text, rfl⟩ := List.exists_cons_of_ne_nil hn
  have hfirst : Takes (one p) start [c] (text ++ rest) c := takes_one (ht c List.mem_cons_self)
  exact hfirst.bind (takes_all (fun d hd => ht d (List.mem_cons_of_mem _ hd)) hr).map

lemma takes_times {count : ℕ} (hl : text.length = count) (ht : ∀ c ∈ text, p c = true) :
    Takes (times count p) start text rest text := by
  have htaken : ((text ++ rest).take count).takeWhile p = text := by
    rw [← hl, List.take_left, List.takeWhile_eq_self_iff]
    exact ht
  simp only [Takes, times, htaken, hl, if_true]
  rw [← hl, List.drop_left]

lemma refuses_refuse (text : Text) : Refuses (refuse : Reader α) text := fun _ => ⟨_, rfl⟩

lemma Refuses.bind (h : Refuses r text) : Refuses (r >>= f) text := by
  intro start
  obtain ⟨fault, hf⟩ := h start
  exact ⟨fault, bind_refused hf⟩

lemma Refuses.later (h : ∀ start, Takes r start text rest a) (k : Refuses (f a) rest) :
    Refuses (r >>= f) (text ++ rest) := by
  intro start
  obtain ⟨fault, hf⟩ := k (start + byteLength text)
  exact ⟨fault, (bind_done (h start)).trans hf⟩

lemma Refuses.cons (h : ∀ start, Takes r start [c] rest a) (k : Refuses (f a) rest) : Refuses (r >>= f) (c :: rest) :=
  Refuses.later h k

lemma refuses_peek {f : Option Char → Reader β} (h : Refuses (f text.head?) text) : Refuses (peek? >>= f) text :=
  Refuses.later (fun _ => takes_peek) h

lemma Refuses.orElse (h : Refuses r text) (k : Refuses other text) : Refuses (Reader.orElse r other) text := by
  intro start
  obtain ⟨fault, hf⟩ := h start
  obtain ⟨fault', hf'⟩ := k start
  exact ⟨fault', by rw [Reader.orElse, hf]; exact hf'⟩

lemma Refuses.ahead (h : Refuses r text) : Refuses (Reader.ahead r) text := by
  intro start
  obtain ⟨fault, hf⟩ := h start
  exact ⟨fault, by rw [Reader.ahead, hf]⟩

lemma Refuses.explain {change : Fault → Fault} (h : Refuses r text) : Refuses (explain change r) text := by
  intro start
  obtain ⟨fault, hf⟩ := h start
  exact ⟨change fault, by rw [Reader.explain, hf]⟩

lemma Refuses.restrict {check : α → Except Cause β} (h : Refuses r text) : Refuses (restrict r check) text := by
  intro start
  obtain ⟨fault, hf⟩ := h start
  exact ⟨fault, by rw [Reader.restrict, hf]⟩

lemma Refuses.restricted {check : α → Except Cause β} {cause : Cause} (h : ∀ start, Takes r start text rest a)
    (hc : check a = .error cause) : Refuses (Reader.restrict r check) (text ++ rest) := by
  intro start
  refine ⟨{ Fault.at_ start with cause := some cause }, ?_⟩
  rw [Reader.restrict, h start]
  simp only [hc]

lemma Refuses.located (h : Refuses r text) : Refuses (located r) text := by
  intro start
  obtain ⟨fault, hf⟩ := h start
  have hplace : place ⟨text, start⟩ = .done (⟨text, start⟩ : Place) ⟨text, start⟩ := rfl
  exact ⟨fault, (bind_done hplace).trans (bind_refused hf)⟩

lemma refuses_one (h : ∀ c ∈ text.head?, p c = false) : Refuses (one p) text := by
  intro start
  cases text with
  | nil => exact ⟨_, rfl⟩
  | cons c text => exact ⟨Fault.at_ start, by simp [one, h c rfl]⟩

lemma refuses_char (h : text.head? ≠ some c) : Refuses (char c) text := by
  apply refuses_one
  intro d hd
  simp only [decide_eq_false_iff_not]
  rintro rfl
  exact h hd

lemma refuses_some (h : ∀ c ∈ text.head?, p c = false) : Refuses (some_ p) text := (refuses_one h).bind

lemma refuses_exactly (h : ¬ more <+: text) : Refuses (exactly more) text := by
  intro start
  refine ⟨Fault.at_ start, ?_⟩
  simp [exactly, h]

lemma refuses_times {count : ℕ} (h : ((text.take count).takeWhile p).length ≠ count) :
    Refuses (times count p) text := by
  intro start
  exact ⟨Fault.at_ start, by simp [times, h]⟩

lemma Refuses.optional (h : Refuses r rest) : Takes (optional r) start [] rest none :=
  .otherwise h.bind (takes_pure _ _ _)

inductive TakesEach (r : Reader α) : Place → List α → Place → Prop
  | nil {q : Place} : Refuses r q.rest → TakesEach r q [] q
  | cons {a : α} {q next last : Place} {as : List α} : r q = .done a next → next.rest.length < q.rest.length →
      TakesEach r next as last → TakesEach r q (a :: as) last

lemma TakesEach.rounds {q last : Place} {as : List α} (h : TakesEach r q as last) {n : ℕ}
    (hn : q.rest.length < n) : many.rounds r n q = .done as last := by
  induction h generalizing n with
  | @nil q hr =>
    obtain ⟨n, rfl⟩ := Nat.exists_eq_succ_of_ne_zero (by omega : n ≠ 0)
    have hnone : Reader.optional r q = .done none q := hr.optional
    rw [many.rounds, bind_done hnone]
    rfl
  | @cons a q next last as hd hlt _ ih =>
    obtain ⟨n, rfl⟩ := Nat.exists_eq_succ_of_ne_zero (by omega : n ≠ 0)
    have hsome : Reader.optional r q = .done (some a) next := by
      rw [Reader.optional, Reader.orElse, bind_done hd]
      rfl
    rw [many.rounds, bind_done hsome]
    change (many.rounds r n >>= fun others => pure (a :: others)) next = _
    rw [bind_done (ih (by omega))]
    rfl

lemma TakesEach.many {q last : Place} {as : List α} (h : TakesEach r q as last) : many r q = .done as last :=
  h.rounds (Nat.lt_succ_self _)

lemma TakesEach.uncons {q last : Place} {as : List α} (h : TakesEach r q (a :: as) last) :
    ∃ next, r q = .done a next ∧ TakesEach r next as last := by
  cases h with
  | cons ha _ has => exact ⟨_, ha, has⟩

lemma TakesEach.eq {q last : Place} (h : TakesEach r q [] last) : q = last := by
  cases h
  rfl

def TakesMany (r : Reader α) (start : ℕ) (text rest : Text) (as : List α) : Prop :=
  TakesEach r ⟨text ++ rest, start⟩ as ⟨rest, start + byteLength text⟩

lemma TakesMany.many {as : List α} (h : TakesMany r start text rest as) : Takes (many r) start text rest as :=
  TakesEach.many h

lemma takesMany_nil (h : Refuses r rest) : TakesMany r start [] rest [] := .nil h

lemma TakesMany.cons {as : List α} (h : Takes r start text (more ++ rest) a) (ht : text ≠ [])
    (k : TakesMany r (start + byteLength text) more rest as) : TakesMany r start (text ++ more) rest (a :: as) := by
  have hlength : 0 < text.length := List.length_pos_iff.mpr ht
  rw [TakesMany, List.append_assoc, byteLength_append, ← Nat.add_assoc]
  refine .cons h ?_ k
  simp only [List.length_append]
  omega

def TakesPieces (r : Reader Text) (start : ℕ) (text rest value : Text) : Prop :=
  ∃ pieces, TakesMany r start text rest pieces ∧ pieces.flatten = value

lemma takesPieces_nil {r : Reader Text} (h : Refuses r rest) : TakesPieces r start [] rest [] :=
  ⟨[], takesMany_nil h, rfl⟩

lemma TakesPieces.cons {r : Reader Text} {piece value : Text} (h : Takes r start text (more ++ rest) piece)
    (ht : text ≠ []) (k : TakesPieces r (start + byteLength text) more rest value) :
    TakesPieces r start (text ++ more) rest (piece ++ value) := by
  obtain ⟨pieces, hp, rfl⟩ := k
  exact ⟨piece :: pieces, hp.cons h ht, rfl⟩

lemma TakesPieces.front {r : Reader Text} {value : Text} (h : TakesPieces r start text rest value) (ht : text ≠ []) :
    ∃ piece next, r ⟨text ++ rest, start⟩ = .done piece next := by
  obtain ⟨pieces, hp, -⟩ := h
  cases pieces with
  | nil => exact absurd (List.append_left_eq_self.mp (congrArg Place.rest hp.eq)) ht
  | cons piece pieces =>
    obtain ⟨next, hnext, -⟩ := hp.uncons
    exact ⟨piece, next, hnext⟩

lemma some_cons (hc : p c = true) : some_ p ⟨c :: text, start⟩ = .done (c :: text.takeWhile p)
    ⟨text.drop (text.takeWhile p).length, start + c.utf8Size + byteLength (text.takeWhile p)⟩ := by
  have hone : one p ⟨c :: text, start⟩ = .done c ⟨text, start + c.utf8Size⟩ := by simp [one, hc]
  rw [some_, bind_done hone]
  rfl

lemma orElse_some_cons {other : Reader Text} (hc : p c = true) : Reader.orElse (some_ p) other ⟨c :: text, start⟩ =
    .done (c :: text.takeWhile p)
      ⟨text.drop (text.takeWhile p).length, start + c.utf8Size + byteLength (text.takeWhile p)⟩ := by
  rw [Reader.orElse, some_cons hc]

lemma TakesEach.run {other : Reader Text} {pieces : List Text} {last : Place} (hc : p c = true)
    (h : TakesEach (Reader.orElse (some_ p) other) ⟨text, start + c.utf8Size⟩ pieces last) :
    ∃ longer, TakesEach (Reader.orElse (some_ p) other) ⟨c :: text, start⟩ longer last ∧
      longer.flatten = c :: pieces.flatten := by
  by_cases hhead : ∀ d ∈ text.head?, p d = false
  · have hnone : text.takeWhile p = [] := by
      cases text with
      | nil => rfl
      | cons d tail => simp [hhead d rfl]
    refine ⟨[c] :: pieces, .cons ?_ ?_ h, rfl⟩
    · rw [orElse_some_cons hc, hnone]
      rfl
    · simp
  · push Not at hhead
    obtain ⟨d, hd, hp⟩ := hhead
    obtain ⟨tail, rfl⟩ := List.head?_eq_some_iff.mp hd
    simp only [ne_eq, Bool.not_eq_false] at hp
    cases h with
    | nil hr =>
      obtain ⟨fault, hf⟩ := hr (start + c.utf8Size)
      rw [orElse_some_cons hp] at hf
      cases hf
    | @cons piece _ next _ pieces ht hlt hmore =>
      rw [orElse_some_cons hp] at ht
      cases ht
      refine ⟨(c :: d :: tail.takeWhile p) :: pieces, .cons ?_ ?_ hmore, rfl⟩
      · rw [orElse_some_cons hc]
        simp [hp, Nat.add_assoc]
      · simp
        omega

lemma TakesPieces.run {other : Reader Text} {value : Text} (hc : p c = true)
    (k : TakesPieces (Reader.orElse (some_ p) other) (start + byteLength [c]) text rest value) :
    TakesPieces (Reader.orElse (some_ p) other) start (c :: text) rest (c :: value) := by
  obtain ⟨pieces, hp, rfl⟩ := k
  have hstart : start + byteLength [c] = start + c.utf8Size := by simp
  rw [TakesMany, hstart] at hp
  obtain ⟨longer, hl, hv⟩ := hp.run hc
  refine ⟨longer, ?_, hv⟩
  rw [TakesMany, byteLength_cons, ← Nat.add_assoc]
  exact hl

end Reader

end DeclSplit.Toml
