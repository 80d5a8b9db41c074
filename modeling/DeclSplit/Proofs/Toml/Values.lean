import DeclSplit.Proofs.Toml.Scalars

/-! Keys and values are read as they are spelled, through all levels of brackets. -/

namespace DeclSplit.Toml.Reader

open Text Rules

variable {start : ℕ} {text b b' g k name rest : Text}

def KeyEnds (rest : Text) : Prop := ∀ c ∈ rest.head?, c ∈ ['=', ']', '.']

lemma KeyEnds.apart {p : Char → Bool} (h : KeyEnds rest) (hp : ∀ c ∈ ['=', ']', '.'], p c = false) :
    ∀ c ∈ rest.head?, p c = false :=
  fun c hc => hp c (h c hc)

lemma apart_blanks {p : Char → Bool} (hb : Made Rules.isBlank b) (hp : ∀ c ∈ [' ', '\t'], p c = false)
    (hr : ∀ c ∈ rest.head?, p c = false) : ∀ c ∈ (b ++ rest).head?, p c = false := by
  cases b with
  | nil => exact hr
  | cons d b =>
    rintro c ⟨⟩
    have hd : d = ' ' ∨ d = '\t' := by simpa [Rules.isBlank] using hb d List.mem_cons_self
    exact hp d (by simpa using hd)

def keyText : Reader Text := do
  match ← peek? with
  | some '"' => basicString
  | some '\'' => literalString
  | _ => some_ isBare

lemma takes_keyText (hk : SimpleKey text name) (hr : ∀ c ∈ rest.head?, Rules.isBare c = false) :
    Takes keyText start text rest name := by
  cases hk with
  | quoted hq =>
    cases hq with
    | basic ht => exact takes_peek.first (takes_basicString ht)
    | literal ht => exact takes_peek.first (takes_literalString ht)
  | bare hn hm =>
    have hsome : Takes (some_ isBare) start text rest text := by
      rw [isBare_eq] at hm hr
      exact takes_some hn hm hr
    refine takes_peek.first ?_
    obtain ⟨c, tail, rfl⟩ := List.exists_cons_of_ne_nil hn
    have hc : Rules.isBare c = true := hm c List.mem_cons_self
    split
    · rename_i he
      cases he
      cases hc
    · rename_i he
      cases he
      cases hc
    · exact hsome

def StartsKey (text : Text) : Prop :=
  ∃ c tail, text = c :: tail ∧ Rules.isBlank c = false ∧ c ∉ ['#', '[', '\n', '\r', '\ufeff']

lemma StartsKey.append (h : StartsKey text) (more : Text) : StartsKey (text ++ more) := by
  obtain ⟨c, tail, rfl, hc⟩ := h
  exact ⟨c, tail ++ more, rfl, hc⟩

lemma startsKey_simple {name : Text} (hs : SimpleKey text name) : StartsKey text := by
  cases hs with
  | quoted hq => cases hq <;> exact ⟨_, _, rfl, by decide⟩
  | bare hn hm =>
    obtain ⟨c, tail, rfl⟩ := List.exists_cons_of_ne_nil hn
    have hc : Rules.isBare c = true := hm c List.mem_cons_self
    refine ⟨c, tail, rfl, Bool.eq_false_iff.mpr fun hb => ?_, fun hmem => ?_⟩
    · have hd : c = ' ' ∨ c = '\t' := by simpa [Rules.isBlank] using hb
      rcases hd with rfl | rfl <;> cases hc
    · exact absurd hc ((by decide : ∀ c ∈ ['#', '[', '\n', '\r', '\ufeff'], ¬ Rules.isBare c = true) c hmem)

lemma takes_simpleKey (hb : Made Rules.isBlank b) (hk : SimpleKey text name) (hb' : Made Rules.isBlank b')
    (hr : KeyEnds rest) :
    Takes simpleKey start (b ++ (text ++ b')) rest
      ⟨name, ⟨start + byteLength b, start + byteLength b + byteLength text⟩⟩ := by
  refine (takes_blanks hb ?_).bind (Takes.bind (Takes.located (takes_keyText hk ?_)) ?_)
  · obtain ⟨c, tail, rfl, hc, -⟩ := startsKey_simple hk
    rintro d ⟨⟩
    exact hc
  · exact apart_blanks hb' (by decide) (hr.apart (by decide))
  · exact (takes_blanks hb' (hr.apart (by decide))).last (takes_pure _ _ _)

lemma parts_run (start : ℕ) {names : List Text} (hp : Parts text names) (hb : Made Rules.isBlank b)
    (hr : ∀ c ∈ rest.head?, c ∈ ['=', ']']) :
    ∃ t more key others, text = t ++ more ∧ names = (key :: others).map Key.name ∧
      Takes simpleKey start (b ++ t) (more ++ rest) key ∧
      TakesMany (do let _ ← char '.'; simpleKey) (start + byteLength (b ++ t)) more rest others := by
  induction hp generalizing start b with
  | @last text name b' hk hb' =>
    refine ⟨text ++ b', [], ⟨name, _⟩, [], by simp, rfl, takes_simpleKey hb hk hb' fun c hc => ?_, takesMany_nil ?_⟩
    · exact (by decide : ∀ c ∈ ['=', ']'], c ∈ ['=', ']', '.']) c (hr c hc)
    · exact (refuses_char fun h => absurd (hr '.' h) (by decide)).bind
  | @more text name b' b'' tail names hk hb' hb'' _ ih =>
    obtain ⟨t, more, key, others, rfl, rfl, hkey, hmany⟩ :=
      ih (start + byteLength (b ++ (text ++ b')) + byteLength ['.']) hb''
    have hdot : Takes (do let _ ← char '.'; simpleKey) (start + byteLength (b ++ (text ++ b'))) ('.' :: (b'' ++ t))
        (more ++ rest) key := takes_char.cons hkey
    refine ⟨text ++ b', '.' :: (b'' ++ t) ++ more, ⟨name, _⟩, key :: others, by simp, rfl,
      takes_simpleKey hb hk hb' ?_, TakesMany.cons hdot (by simp) ?_⟩
    · rintro c ⟨⟩
      decide
    · simpa [Nat.add_assoc] using hmany

lemma takes_key (start : ℕ) {way : List Text} {name : Text} (hk : DottedKey Limits.reader text (way, name))
    (hb : Made Rules.isBlank b) (hr : ∀ c ∈ rest.head?, c ∈ ['=', ']']) :
    ∃ steps last, steps.map Key.name = way ∧ last.name = name ∧
      Takes key start (b ++ text) rest (steps, last) := by
  obtain ⟨hp, hl⟩ := hk
  obtain ⟨t, more, first, others, rfl, hnames, hfirst, hmany⟩ := parts_run start hp hb hr
  obtain ⟨steps, ends, hkeys, rfl, hends⟩ := List.map_eq_append_iff.mp hnames.symm
  obtain ⟨last, rfl, rfl⟩ := List.map_eq_singleton_iff.mp hends
  refine ⟨steps, last, rfl, rfl, ?_⟩
  have hparts : Takes (separated simpleKey (char '.')) start (b ++ (t ++ more)) rest (steps ++ [last]) := by
    rw [← hkeys, ← List.append_assoc]
    exact hfirst.bind hmany.many.map
  refine hparts.within.restrict ?_
  have hlength : (steps.map Key.name).length + 1 < deepest := hl
  rw [List.length_map] at hlength
  simp [hlength]

lemma startsKey_dotted {name : List Text × Text} (hk : DottedKey Limits.reader k name) : StartsKey k := by
  obtain ⟨hp, -⟩ := hk
  rename_i way key
  generalize way ++ [key] = keys at hp
  cases hp with
  | last hs => exact (startsKey_simple hs).append _
  | more hs => exact (((startsKey_simple hs).append _).append _).append _

lemma startsKey_keyValue {kv : Text} {Element : Text → Meaning → Prop} {pair : (List Text × Text) × Meaning}
    (hkv : KeyValue Limits.reader Element kv pair) : StartsKey kv := by
  obtain ⟨hk, -, -⟩ := hkv
  exact ((startsKey_dotted hk).append _).append _

lemma refuses_key (hb : Made Rules.isBlank b) : Refuses key (b ++ '\x7d' :: rest) := by
  refine Refuses.restrict (Refuses.explain (Refuses.bind ?_))
  refine .later (fun start => takes_blanks hb ?_) (Refuses.bind (Refuses.located (refuses_peek (refuses_some ?_))))
  · rintro c ⟨⟩
    rfl
  · rintro c ⟨⟩
    rfl

lemma ends_blanks {c : Char} (hb : Made Rules.isBlank b) (hc : c ∈ enders) :
    Ends (b ++ c :: rest) :=
  ⟨b, c :: rest, rfl, hb, by rintro d ⟨⟩; exact hc⟩

lemma ends_gap {c : Char} (hg : Spacing g) (hc : c ∈ enders) : Ends (g ++ c :: rest) := by
  cases hg with
  | blanks hb => exact ends_blanks hb hc
  | @line b comment n g hb hr hn =>
    rw [List.append_assoc, List.append_assoc, List.append_assoc]
    cases hr with
    | comment => exact ends_blanks hb (by decide)
    | none => cases hn <;> exact ends_blanks hb (by decide)

lemma refuses_scalar {c : Char} (hc : c ∈ '[' :: '\x7b' :: bounds) :
    Refuses scalar (c :: text) := by
  have hword : Refuses (word refuse : Reader (Span → Item)) (c :: text) := by
    unfold word wanting within
    exact (refuses_refuse _).explain.explain.explain
  refine refuses_peek ?_
  simp only [bounds, enders, List.mem_cons, List.not_mem_nil, or_false] at hc
  rcases hc with rfl | rfl | rfl | rfl | rfl | rfl | rfl | rfl | rfl | rfl <;> exact hword

structure Reads (element : Reader Item) (Element : Text → Meaning → Prop) : Prop where
  takes : ∀ (start : ℕ) {text rest : Text} {m : Meaning}, Element text m → Ends rest →
    ∃ item, item.Means m ∧ Takes element start text rest item
  refuses : ∀ c ∈ bounds, ∀ text, Refuses element (c :: text)

variable {element : Reader Item} {Element : Text → Meaning → Prop} {item : Item} {items : List Item} {m : Meaning}
  {ms : List Meaning} {v g' : Text}

lemma Refuses.not_takes {α : Type} {r : Reader α} {a : α} (h : Refuses r (text ++ rest)) :
    ¬ Takes r start text rest a := by
  intro ht
  obtain ⟨fault, hf⟩ := h start
  rw [ht] at hf
  cases hf

lemma Reads.head (hr : Reads element Element) (hv : Element v m) (he : Ends rest) :
    ∀ c ∈ (v ++ rest).head?, c ∉ bounds := by
  intro c hc hmem
  obtain ⟨tail, ht⟩ := List.head?_eq_some_iff.mp hc
  obtain ⟨item, -, htakes⟩ := hr.takes 0 hv he
  refine Refuses.not_takes ?_ htakes
  rw [ht]
  exact hr.refuses c hmem tail

def spaced (element : Reader Item) : Reader Item := do gap; let item ← element; gap; return item

def elements (element : Reader Item) : Reader (List Item) := do
  if (← peek?) = some ']' then return []
  let read ← optional (separated (spaced element) (char ','))
  if read.isSome then
    let _ ← optional (char ',')
  gap
  return read.getD []

lemma array_eq (element : Reader Item) : array element = (do
    let _ ← char '['
    let items ← commit (elements element)
    let _ ← commit (wanting (.char ']') (within .array (char ']')))
    return .array items) :=
  rfl

lemma gap_nil : Spacing [] := .blanks (by simp [Made])

lemma gapEnds_of_mem {c : Char} (hc : c ∈ [',', ']']) : GapEnds (c :: rest) := by
  rintro d ⟨⟩
  exact (by decide : ∀ c ∈ [',', ']'], isWhite c = false ∧ c ≠ '#') c hc

lemma takes_spaced (start : ℕ) (c : Char) (rest : Text) (hr : Reads element Element) (hg : Spacing g)
    (hv : Element v m) (hg' : Spacing g') (hc : c ∈ [',', ']']) :
    ∃ item, item.Means m ∧ Takes (spaced element) start (g ++ v ++ g') (c :: rest) item := by
  have he : Ends (g' ++ c :: rest) :=
    ends_gap hg' ((by decide : ∀ c ∈ [',', ']'], c ∈ enders) c hc)
  obtain ⟨item, hi, htakes⟩ := hr.takes (start + byteLength g) hv he
  refine ⟨item, hi, ?_⟩
  rw [List.append_assoc]
  refine (takes_gap hg fun d hd => ?_).bind (htakes.bind ((takes_gap hg' (gapEnds_of_mem hc)).last
    (takes_pure _ _ _)))
  rw [List.append_assoc] at hd
  have hhead := hr.head hv he d hd
  simp only [bounds, enders, List.mem_cons, not_or] at hhead
  simp [isWhite, Rules.isBlank, hhead]

lemma refuses_spaced (hr : Reads element Element) (hg : Spacing g) : Refuses (spaced element) (g ++ ']' :: rest) :=
  .later (fun _ => takes_gap hg (gapEnds_of_mem (by simp))) (hr.refuses ']' (by decide) rest).bind

lemma elements_run (start : ℕ) (rest : Text) (hr : Reads element Element) (hes : Elements Element text ms) :
    ∃ t t' more first others, text = t ++ t' ++ more ∧ List.Forall₂ Item.Means (first :: others) ms ∧
      Takes (spaced element) start t (t' ++ (more ++ ']' :: rest)) first ∧
      TakesMany (do let _ ← char ','; spaced element) (start + byteLength t) t' (more ++ ']' :: rest) others ∧
      ∀ read : List Item, Takes (do let _ ← optional (char ','); gap; return read) (start + byteLength (t ++ t')) more
        (']' :: rest) read := by
  induction hes generalizing start with
  | @last g v g' m hg hv hg' =>
    obtain ⟨item, hi, hitem⟩ := takes_spaced start ']' rest hr hg hv hg' (by simp)
    refine ⟨g ++ v ++ g', [], [], item, [], by simp, .cons hi .nil, hitem, takesMany_nil ?_, ?_⟩
    · exact (refuses_char (by simp)).bind
    · exact fun read => (Refuses.optional (refuses_char (by simp))).first
        ((takes_gap gap_nil (gapEnds_of_mem (by simp))).last (takes_pure _ _ _))
  | @comma g v g' g'' m hg hv hg' hg'' =>
    obtain ⟨item, hi, hitem⟩ := takes_spaced start ',' (g'' ++ ']' :: rest) hr hg hv hg' (by simp)
    refine ⟨g ++ v ++ g', [], ',' :: g'', item, [], by simp, .cons hi .nil, hitem, takesMany_nil ?_, ?_⟩
    · exact .cons (fun _ => takes_char) (refuses_spaced hr hg'')
    · exact fun read => takes_char.optional.cons
        ((takes_gap hg'' (gapEnds_of_mem (by simp))).last (takes_pure _ _ _))
  | @more g v g' tail m ms hg hv hg' _ ih =>
    obtain ⟨t, t', more, first, others, rfl, hmeans, hfirst, hothers, hend⟩ :=
      ih (start + byteLength (g ++ v ++ g' ++ [',']))
    obtain ⟨item, hi, hitem⟩ := takes_spaced start ',' (t ++ t' ++ (more ++ ']' :: rest)) hr hg hv hg' (by simp)
    have hcomma : Takes (do let _ ← char ','; spaced element) (start + byteLength (g ++ v ++ g')) (',' :: t)
        (t' ++ (more ++ ']' :: rest)) first := takes_char.cons (by simpa [Nat.add_assoc] using hfirst)
    refine ⟨g ++ v ++ g', ',' :: t ++ t', more, item, first :: others, by simp, .cons hi hmeans, hitem,
      TakesMany.cons hcomma (by simp) ?_, ?_⟩
    · simpa [Nat.add_assoc] using hothers
    · simpa [Nat.add_assoc] using hend

lemma takes_elements (start : ℕ) (rest : Text) (hr : Reads element Element) (hes : Elements Element text ms) :
    ∃ items, List.Forall₂ Item.Means items ms ∧ Takes (elements element) start text (']' :: rest) items := by
  obtain ⟨t, t', more, first, others, rfl, hmeans, hfirst, hothers, hend⟩ := elements_run start rest hr hes
  have hitems : Takes (separated (spaced element) (char ',')) start (t ++ t') (more ++ ']' :: rest) (first :: others) :=
    hfirst.bind hothers.many.map
  refine ⟨first :: others, hmeans, takes_peek.first ?_⟩
  rw [if_neg]
  · exact Takes.bind hitems.optional (hend _)
  · intro hclose
    obtain ⟨tail, htail⟩ := List.head?_eq_some_iff.mp hclose
    have hrefuses : Refuses (spaced element) (t ++ (t' ++ (more ++ ']' :: rest))) := by
      rw [← List.append_assoc, ← List.append_assoc, htail]
      exact refuses_spaced hr gap_nil
    exact hrefuses.not_takes hfirst

lemma nil_of_gap (hg : Spacing g) (hc : (g ++ rest).head? = some ']') : g = [] := by
  cases hg with
  | blanks hb =>
    cases g with
    | nil => rfl
    | cons c g =>
      cases hc
      cases hb ']' List.mem_cons_self
  | @line b comment n g hb hr hn =>
    have hne : ∀ c ∈ (b ++ (comment ++ (n ++ (g ++ rest)))).head?, decide (c = ']') = false := by
      refine apart_blanks hb (by decide) ?_
      cases hr with
      | comment => simp
      | none => cases hn <;> simp
    simp only [List.append_assoc] at hc
    exact absurd (hne ']' hc) (by decide)

lemma takes_noElements (hr : Reads element Element) (hg : Spacing g) :
    Takes (elements element) start g (']' :: rest) [] := by
  refine takes_peek.first ?_
  split
  · rename_i hclose
    rw [nil_of_gap hg hclose]
    exact takes_pure _ _ _
  · refine (Refuses.optional (Refuses.bind (refuses_spaced hr hg))).first ?_
    exact (takes_gap hg (gapEnds_of_mem (by simp))).last (takes_pure _ _ _)

lemma takes_array (h : Takes (elements element) (start + 1) text (']' :: rest) items) :
    Takes (array element) start ('[' :: text ++ [']']) rest (.array items) := by
  rw [array_eq]
  exact takes_char.cons (h.commit.bind (takes_char.within.wanting.commit.last (takes_pure _ _ _)))

lemma takes_keyValue (start : ℕ) {kv more : Text} {pair : (List Text × Text) × Meaning} (hr : Reads element Element)
    (hb : Made Rules.isBlank b) (hkv : KeyValue Limits.reader Element kv pair) (he : Ends (more ++ rest)) :
    ∃ read, PairMeans read pair ∧ ∀ {β : Type} {result : β} (f : (List Key × Key) × Item → Reader β),
      Takes (f read) (start + byteLength (b ++ kv)) more rest result → Takes (do
        let name ← key
        commit do
          equals
          blanks
          let item ← element
          f (name, item)) start (b ++ kv ++ more) rest result := by
  obtain ⟨hk, hb', hv⟩ := hkv
  rename_i k b' v name m
  obtain ⟨way, last⟩ := name
  have hblank : ∀ c ∈ (v ++ more ++ rest).head?, Rules.isBlank c = false := by
    intro c hc
    rw [List.append_assoc] at hc
    have hhead := hr.head hv he c hc
    simp only [bounds, enders, List.mem_cons, not_or] at hhead
    simp [Rules.isBlank, hhead]
  have hkeyEnds : ∀ c ∈ ('=' :: (b' ++ (v ++ more)) ++ rest).head?, c ∈ ['=', ']'] := by
    rintro c ⟨⟩
    decide
  obtain ⟨steps, key, rfl, rfl, hkey⟩ := takes_key start hk hb hkeyEnds
  have hequals : Takes equals (start + byteLength (b ++ k)) ['='] (b' ++ (v ++ more) ++ rest) () :=
    takes_char.wanting.wanting.drop
  obtain ⟨item, hi, hvalue⟩ := hr.takes (start + byteLength (b ++ k) + byteLength ['='] + byteLength b') hv he
  refine ⟨((steps, key), item), .mk hi, fun f hf => ?_⟩
  have htext : b ++ (k ++ '=' :: b' ++ v) ++ more = b ++ k ++ '=' :: (b' ++ (v ++ more)) := by simp
  rw [htext]
  refine hkey.bind (Takes.commit (hequals.cons ?_))
  refine (takes_blanks hb' hblank).bind (hvalue.bind ?_)
  simpa [Nat.add_assoc] using hf

lemma takes_pair (start : ℕ) (c : Char) (rest : Text) {kv : Text} {spelled : (List Text × Text) × Meaning}
    (hr : Reads element Element) (hb : Made Rules.isBlank b) (hkv : KeyValue Limits.reader Element kv spelled)
    (hb' : Made Rules.isBlank b') (hc : c ∈ [',', '\x7d']) :
    ∃ read, PairMeans read spelled ∧ Takes (pair element) start (b ++ kv ++ b') (c :: rest) read := by
  have hblank : ∀ d ∈ (c :: rest).head?, Rules.isBlank d = false := by
    rintro d ⟨⟩
    exact (by decide : ∀ c ∈ [',', '\x7d'], Rules.isBlank c = false) c hc
  have he : Ends (b' ++ c :: rest) := ends_blanks hb' ((by decide : ∀ c ∈ [',', '\x7d'], c ∈ enders) c hc)
  obtain ⟨read, hp, htakes⟩ := takes_keyValue start hr hb hkv he
  exact ⟨read, hp, htakes (fun read => do blanks; return read) ((takes_blanks hb' hblank).last (takes_pure _ _ _))⟩

lemma pairs_run (start : ℕ) (rest : Text) {spelled : List ((List Text × Text) × Meaning)}
    (hr : Reads element Element) (hps : Pairs Limits.reader Element text spelled) :
    ∃ t more first others, text = t ++ more ∧ List.Forall₂ PairMeans (first :: others) spelled ∧
      Takes (pair element) start t (more ++ '\x7d' :: rest) first ∧
      TakesMany (do let _ ← char ','; pair element) (start + byteLength t) more ('\x7d' :: rest) others := by
  induction hps generalizing start with
  | @last b kv b' _ hb hkv hb' =>
    obtain ⟨read, hp, hread⟩ := takes_pair start '\x7d' rest hr hb hkv hb' (by simp)
    refine ⟨b ++ kv ++ b', [], read, [], by simp, .cons hp .nil, hread, takesMany_nil ?_⟩
    exact (refuses_char (by simp)).bind
  | @more b kv b' tail _ _ hb hkv hb' _ ih =>
    obtain ⟨t, more, first, others, rfl, hmeans, hfirst, hothers⟩ :=
      ih (start + byteLength (b ++ kv ++ b' ++ [',']))
    obtain ⟨read, hp, hread⟩ := takes_pair start ',' (t ++ more ++ '\x7d' :: rest) hr hb hkv hb' (by simp)
    have hcomma : Takes (do let _ ← char ','; pair element) (start + byteLength (b ++ kv ++ b')) (',' :: t)
        (more ++ '\x7d' :: rest) first := takes_char.cons (by simpa [Nat.add_assoc] using hfirst)
    refine ⟨b ++ kv ++ b', ',' :: t ++ more, read, first :: others, by simp, .cons hp hmeans, hread,
      TakesMany.cons hcomma (by simp) ?_⟩
    simpa [Nat.add_assoc] using hothers

def pairs (element : Reader Item) : Reader (List ((List Key × Key) × Item)) := do
  let read ← optional (separated (pair element) (char ','))
  blanks
  return read.getD []

lemma takes_pairs (start : ℕ) (rest : Text) {spelled : List ((List Text × Text) × Meaning)} (hr : Reads element Element)
    (hps : Pairs Limits.reader Element text spelled) :
    ∃ read, List.Forall₂ PairMeans read spelled ∧ Takes (pairs element) start text ('\x7d' :: rest) read := by
  obtain ⟨t, more, first, others, rfl, hmeans, hfirst, hothers⟩ := pairs_run start rest hr hps
  have hread : Takes (separated (pair element) (char ',')) start (t ++ more) ('\x7d' :: rest) (first :: others) :=
    hfirst.bind hothers.many.map
  have hblanks : Takes blanks (start + byteLength (t ++ more)) [] ('\x7d' :: rest) () :=
    takes_blanks (by simp [Made]) (by simp [Rules.isBlank])
  exact ⟨first :: others, hmeans, hread.optional.last (hblanks.first (takes_pure _ _ _))⟩

lemma takes_noPairs (hb : Made Rules.isBlank b) : Takes (pairs element) start b ('\x7d' :: rest) [] := by
  refine (Refuses.optional (Refuses.bind (Refuses.bind (refuses_key hb)))).first ?_
  exact (takes_blanks hb (by simp [Rules.isBlank])).last (takes_pure _ _ _)

lemma takes_inlineTable {spelled : List ((List Text × Text) × Meaning)} {read : List ((List Key × Key) × Item)}
    {t : Nodes} {bindings : Bindings} (h : Takes (pairs element) (start + 1) text ('\x7d' :: rest) read)
    (hp : List.Forall₂ PairMeans read spelled) (hc : Gathers spelled Nodes.empty t) (hm : t.Mean bindings) :
    ∃ make : Span → Item, (∀ span, (make span).Means (.table bindings)) ∧
      Takes (inlineTable element) start ('\x7b' :: text ++ ['\x7d']) rest make := by
  obtain ⟨entries, hfold, hs⟩ := gathers_shows hp .nil hc
  obtain ⟨hdistinct, hitems⟩ := hs.mean hm
  refine ⟨fun span => .table .inline entries (some span), fun span => .table hdistinct hitems, ?_⟩
  refine takes_char.cons (Takes.bind (Takes.commit (h.restrict hfold)) ?_)
  exact takes_char.within.wanting.commit.last (takes_pure _ _ _)

lemma match_closed {α : Type} {head : Option Char} (r r' other : Reader α) : head ≠ some '[' → head ≠ some '\x7b' →
    (match head with
    | some '[' => r
    | some '\x7b' => r'
    | _ => other) = other := by
  intro h h'
  split
  · exact absurd rfl h
  · exact absurd rfl h'
  · rfl

lemma takes_value_scalar {n : ℕ} (hs : Scalar Limits.reader text m) (hr : Ends rest) :
    ∃ item, item.Means m ∧ Takes (value n) start text rest item := by
  obtain ⟨make, hm, hscalar⟩ := takes_scalar start hs hr
  have hopen : ∀ c ∈ ['[', '\x7b'], (text ++ rest).head? ≠ some c := by
    intro c hc he
    obtain ⟨tail, ht⟩ := List.head?_eq_some_iff.mp he
    refine Refuses.not_takes ?_ hscalar
    rw [ht]
    exact refuses_scalar (List.mem_append_left _ hc)
  have hclosed {α : Type} (r r' other : Reader α) :=
    match_closed r r' other (hopen '[' (by simp)) (hopen '\x7b' (by simp))
  refine ⟨make ⟨start, start + byteLength text⟩, hm _, ?_⟩
  cases n with
  | zero =>
    refine takes_peek.first ((congrFun (hclosed _ _ _) _).trans ?_)
    exact hscalar.located.last (takes_pure (make _) _ _)
  | succ n =>
    refine Takes.last (Takes.located (takes_peek.first ((congrFun (hclosed _ _ _) _).trans hscalar))) (takes_pure _ _ _)

lemma takes_value_compound {n : ℕ} (hr : Reads (value n) Element) (hc : Compound Limits.reader Element text m) :
    ∃ item, item.Means m ∧ Takes (value (n + 1)) start text rest item := by
  cases hc with
  | emptyArray hg =>
    have helements : Takes (elements (value n)) (start + 1) _ (']' :: rest) [] := takes_noElements hr hg
    exact ⟨_, .array .nil, Takes.last (Takes.located (takes_peek.first (takes_array helements))) (takes_pure _ _ _)⟩
  | array he =>
    obtain ⟨items, hi, helements⟩ := takes_elements (start + 1) rest hr he
    exact ⟨_, .array hi, Takes.last (Takes.located (takes_peek.first (takes_array helements))) (takes_pure _ _ _)⟩
  | emptyTable hb =>
    obtain ⟨make, hm, htable⟩ := takes_inlineTable (takes_noPairs hb) .nil .nil Nodes.mean_empty
    exact ⟨_, hm _, Takes.last (Takes.located (takes_peek.first htable)) (takes_pure _ _ _)⟩
  | table hp hc hm =>
    obtain ⟨read, hmeans, hread⟩ := takes_pairs (start + 1) rest hr hp
    obtain ⟨make, hm, htable⟩ := takes_inlineTable hread hmeans hc hm
    exact ⟨_, hm _, Takes.last (Takes.located (takes_peek.first htable)) (takes_pure _ _ _)⟩

lemma refuses_value (n : ℕ) {c : Char} (hc : c ∈ bounds) :
    Refuses (value n) (c :: text) := by
  have hscalar : Refuses scalar (c :: text) := refuses_scalar (List.mem_cons_of_mem _ (List.mem_cons_of_mem _ hc))
  have hopen : ∀ d ∈ ['[', '\x7b'], (c :: text).head? ≠ some d := by
    intro d hd he
    obtain rfl : c = d := Option.some.inj he
    exact (by decide : ∀ c ∈ ['[', '\x7b'], c ∉ bounds) c hd hc
  have hclosed {α : Type} (r r' other : Reader α) :=
    match_closed r r' other (hopen '[' (by simp)) (hopen '\x7b' (by simp))
  cases n with
  | zero => exact refuses_peek ((congrArg (Refuses · (c :: text)) (hclosed _ _ _)).mpr hscalar.located.bind)
  | succ n =>
    exact Refuses.bind (Refuses.located
      (refuses_peek ((congrArg (Refuses · (c :: text)) (hclosed _ _ _)).mpr hscalar)))

lemma reads_value {depth n : ℕ} (hn : depth ≤ n) : Reads (value n) (Value Limits.reader depth) := by
  refine ⟨?_, fun c hc text => refuses_value n hc⟩
  induction depth generalizing n with
  | zero =>
    intro start text rest m hv hr
    exact takes_value_scalar hv hr
  | succ depth ih =>
    obtain ⟨n, rfl⟩ := Nat.exists_eq_succ_of_ne_zero (by omega : n ≠ 0)
    rintro start text rest m (hs | hc) hr
    · exact takes_value_scalar hs hr
    · exact takes_value_compound ⟨ih (by omega), fun c hc text => refuses_value n hc⟩ hc

end DeclSplit.Toml.Reader
