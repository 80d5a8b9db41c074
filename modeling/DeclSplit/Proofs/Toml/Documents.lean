import DeclSplit.Proofs.Toml.Values
import DeclSplit.Toml.Document

/-! Every text that is spelled by the rules, within the limits, is read for the bindings that it describes. -/

namespace DeclSplit.Toml

open Text Rules

namespace Reader

variable {start fuel : ℕ} {text b b' k n remark rest : Text} {doc doc' doc'' : Document}
  {draft draft' : Draft}

inductive LineEnds : Text → Text → Prop
  | newline {n rest : Text} : Newline n → LineEnds n rest
  | finish : LineEnds [] []

lemma takes_lineEnd (h : LineEnds n rest) : Takes lineEnd start n rest () := by
  cases h with
  | newline hn => exact (takes_newline hn).orElse
  | finish => exact .otherwise (refuses_newline (by simp) (by simp)) rfl

lemma LineEnds.apart {p : Char → Bool} (h : LineEnds n rest) (hp : ∀ c ∈ ['\n', '\r'], p c = false) :
    ∀ c ∈ (n ++ rest).head?, p c = false := by
  cases h with
  | newline hn =>
    cases hn with
    | lineFeed => simpa using hp '\n' (by simp)
    | carriageReturn => simpa using hp '\r' (by simp)
  | finish => simp

lemma takes_restOfLine (hb : Made Rules.isBlank b) (hc : Remark remark) (h : LineEnds n rest) :
    Takes restOfLine start (b ++ remark ++ n) rest () := by
  rw [List.append_assoc]
  cases hc with
  | none =>
    have hblank : ∀ c ∈ (n ++ rest).head?, Rules.isBlank c = false := h.apart (by decide)
    have hremark : Refuses comment (n ++ rest) := (refuses_one (h.apart (by decide))).bind
    exact (takes_blanks hb hblank).bind (hremark.optional.first (takes_lineEnd h))
  | comment ht =>
    have hremark : ∀ c ∈ (n ++ rest).head?, isRemark c = false := h.apart (by decide)
    exact (takes_blanks hb (by simp [Rules.isBlank])).bind
      ((takes_comment ht hremark).optional.bind (takes_lineEnd h))

lemma takes_lineOver (hb : Made Rules.isBlank b) (hc : Remark remark) (h : LineEnds n rest) :
    Takes lineOver start (b ++ remark ++ n) rest () :=
  (takes_restOfLine hb hc h).wanting.wanting

lemma ends_line (hb : Made Rules.isBlank b) (hc : Remark remark) (h : LineEnds n rest) :
    Ends (b ++ remark ++ n ++ rest) := by
  rw [List.append_assoc, List.append_assoc]
  refine ⟨b, _, rfl, hb, ?_⟩
  cases hc with
  | comment => simp [enders]
  | none =>
    cases h with
    | newline hn => cases hn <;> simp [enders]
    | finish => simp

lemma takes_assignment (start : ℕ) {depth : ℕ} {kv : Text} {way : List Text} {key : Text} {m : Meaning}
    (hd : depth < 80) (hkv : KeyValue Limits.reader (Value Limits.reader depth) kv ((way, key), m))
    (hb : Made Rules.isBlank b) (hc : Remark remark) (h : LineEnds n rest) (hs : doc.Shows draft)
    (hdoes : Does (.assign way key m) draft draft') :
    ∃ doc', Takes (assignment doc) start (kv ++ (b ++ remark ++ n)) rest doc' ∧ doc'.Shows draft' := by
  have hreads : Reads (value (deepest - 1)) (Value Limits.reader depth) := reads_value (Nat.le_sub_one_of_lt hd)
  have hblank : Made Rules.isBlank [] := by simp [Made]
  obtain ⟨_, ⟨hi⟩, hpair⟩ := takes_keyValue start hreads hblank hkv (ends_line hb hc h)
  rename_i way key item
  obtain ⟨doc', hassign, hs'⟩ := document_assign_shows hs hi hdoes
  have hline := hpair (fun read => do lineOver; return read) ((takes_lineOver hb hc h).last (takes_pure _ _ _))
  exact ⟨doc', Takes.restrict hline hassign, hs'⟩

lemma takes_bracketed {opening closing : String} {way : List Text} {key : Text} (hb : Made Rules.isBlank b)
    (hk : DottedKey Limits.reader k (way, key)) (hclose : ∃ tail, closing.toList = ']' :: tail)
    (hb' : Made Rules.isBlank b') (hc : Remark remark) (h : LineEnds n rest) :
    ∃ steps last, steps.map Key.name = way ∧ last.name = key ∧ Takes (bracketed opening closing) start
      (opening.toList ++ (b ++ k) ++ closing.toList ++ (b' ++ remark ++ n)) rest
      ((steps, last), ⟨start, start + byteLength (opening.toList ++ (b ++ k) ++ closing.toList)⟩) := by
  have hkeyEnds : ∀ c ∈ (closing.toList ++ (b' ++ remark ++ n ++ rest)).head?, c ∈ ['=', ']'] := by
    obtain ⟨tail, ht⟩ := hclose
    rw [ht]
    rintro c ⟨⟩
    decide
  obtain ⟨steps, last, hsteps, hlast, hkey⟩ := takes_key (start + byteLength opening.toList) hk hb hkeyEnds
  refine ⟨steps, last, hsteps, hlast, ?_⟩
  refine Takes.bind (Takes.located ?_) ((takes_lineOver hb' hc h).commit.last (takes_pure _ _ _))
  rw [List.append_assoc]
  exact (takes_exactly _ _).bind (hkey.commit.bind
    ((takes_exactly _ _).wanting.wanting.commit.last (takes_pure _ _ _)))

lemma takes_header_table (start : ℕ) {way : List Text} {key : Text} (hb : Made Rules.isBlank b)
    (hk : DottedKey Limits.reader k (way, key)) (hb' : Made Rules.isBlank b') (hc : Remark remark)
    (h : LineEnds n rest) (hs : doc.Shows draft) (hdoes : Does (.table way key) draft draft') :
    ∃ doc', Takes (header doc) start ('[' :: (b ++ k) ++ [']'] ++ (b' ++ remark ++ n)) rest doc' ∧
      doc'.Shows draft' := by
  obtain ⟨steps, last, rfl, rfl, hread⟩ : ∃ steps last, steps.map Key.name = way ∧ last.name = key ∧
      Takes (bracketed "[" "]") start ('[' :: (b ++ k) ++ [']'] ++ (b' ++ remark ++ n)) rest
        ((steps, last), ⟨start, start + byteLength ('[' :: (b ++ k) ++ [']'])⟩) :=
    takes_bracketed hb hk ⟨[], rfl⟩ hb' hc h
  obtain ⟨c, tail, hinner, hne⟩ : ∃ c tail, b ++ k = c :: tail ∧ c ≠ '[' := by
    obtain ⟨c, tail, rfl, -, hc⟩ := startsKey_dotted hk
    cases b with
    | nil => exact ⟨c, tail, rfl, by rintro rfl; simp at hc⟩
    | cons d b => exact ⟨d, _, rfl, by rintro rfl; cases hb _ List.mem_cons_self⟩
  obtain ⟨doc', hopen, hs'⟩ :=
    document_openTable_shows ⟨start, start + byteLength ('[' :: (b ++ k) ++ [']'])⟩ hs hdoes
  refine ⟨doc', Takes.within (takes_place.first ?_), hs'⟩
  rw [hinner] at hread hopen ⊢
  split
  · rename_i he
    cases he
    exact absurd rfl hne
  · exact hread.restrict hopen
  · rename_i he
    exact absurd rfl (he _ _ _)

lemma takes_header_element (start : ℕ) {way : List Text} {key : Text} (hb : Made Rules.isBlank b)
    (hk : DottedKey Limits.reader k (way, key)) (hb' : Made Rules.isBlank b') (hc : Remark remark)
    (h : LineEnds n rest) (hs : doc.Shows draft) (hdoes : Does (.element way key) draft draft') :
    ∃ doc', Takes (header doc) start ('[' :: '[' :: (b ++ k) ++ [']', ']'] ++ (b' ++ remark ++ n)) rest doc' ∧
      doc'.Shows draft' := by
  obtain ⟨steps, last, rfl, rfl, hread⟩ : ∃ steps last, steps.map Key.name = way ∧ last.name = key ∧
      Takes (bracketed "[[" "]]") start ('[' :: '[' :: (b ++ k) ++ [']', ']'] ++ (b' ++ remark ++ n)) rest
        ((steps, last), ⟨start, start + byteLength ('[' :: '[' :: (b ++ k) ++ [']', ']'])⟩) :=
    takes_bracketed hb hk ⟨_, rfl⟩ hb' hc h
  obtain ⟨doc', hopen, hs'⟩ := document_openElement_shows _ hs hdoes
  exact ⟨doc', Takes.within (takes_place.first (hread.restrict hopen)), hs'⟩

lemma takes_lines_header {line more : Text} (h : Takes (header doc) start ('[' :: line) more doc')
    (hnext : Takes (do blanks; lines fuel doc') (start + byteLength ('[' :: line)) more [] doc'') :
    Takes (lines (fuel + 1) doc) start ('[' :: line ++ more) [] doc'' := by
  refine takes_peek.first (Takes.bind (Takes.commit ?_) hnext)
  rw [List.append_nil]
  exact h

lemma takes_lines_assignment {line more : Text} {c : Char} (hc : c ∉ ['#', '[', '\n', '\r', '\ufeff'])
    (h : Takes (assignment doc) start (c :: line) more doc')
    (hnext : Takes (do blanks; lines fuel doc') (start + byteLength (c :: line)) more [] doc'') :
    Takes (lines (fuel + 1) doc) start (c :: line ++ more) [] doc'' := by
  have hbind : Takes (do let doc' ← commit (assignment doc); blanks; lines fuel doc') start (c :: line ++ more) []
      doc'' := by
    refine Takes.bind (Takes.commit ?_) hnext
    rw [List.append_nil]
    exact h
  refine takes_peek.first ?_
  split
  · rename_i he
    cases he
  · rename_i he
    cases he
    simp at hc
  · rename_i he
    cases he
    simp at hc
  · rename_i he
    cases he
    simp at hc
  · rename_i he
    cases he
    simp at hc
  · exact hbind

lemma takes_lines_comment {more : Text} (ht : Made isRemark remark) (h : LineEnds n more)
    (hnext : Takes (do blanks; lines fuel doc) (start + byteLength ('#' :: remark ++ n)) more [] doc'') :
    Takes (lines (fuel + 1) doc) start ('#' :: remark ++ n ++ more) [] doc'' := by
  have hremark : ∀ c ∈ (n ++ more).head?, isRemark c = false := h.apart (by decide)
  refine takes_peek.first (Takes.bind (Takes.commit ?_) hnext)
  rw [List.append_nil]
  exact (takes_comment ht hremark).bind ((takes_lineEnd h).last (takes_pure _ _ _))

lemma takes_lines_newline {more : Text} (hn : Newline n)
    (hnext : Takes (do blanks; lines fuel doc) (start + byteLength n) more [] doc'') :
    Takes (lines (fuel + 1) doc) start (n ++ more) [] doc'' := by
  have hbind : Takes (do orElse newline refuse; let doc' ← pure doc; blanks; lines fuel doc') start (n ++ more) []
      doc'' := (takes_newline hn).orElse.bind hnext
  cases hn <;> exact takes_peek.first hbind

lemma takes_lines_nil : Takes (lines (fuel + 1) doc) start [] [] doc := rfl

lemma takes_lines_behind {line : Text} (hb : Made Rules.isBlank b)
    (hl : ∀ c ∈ line.head?, Rules.isBlank c = false)
    (h : Takes (lines fuel doc) (start + byteLength b) line [] doc') :
    Takes (do blanks; lines fuel doc) start (b ++ line) [] doc' := by
  refine (takes_blanks hb ?_).bind h
  rwa [List.append_nil]

lemma takes_line {more : Text} {directives : List Directive} (hl : Line Limits.reader text directives)
    (hrun : Run directives draft draft') (hs : doc.Shows draft) (start fuel : ℕ) (h : LineEnds n more) :
    ∃ doc', doc'.Shows draft' ∧ ∀ {doc''},
      Takes (do blanks; lines fuel doc') (start + byteLength (text ++ n)) more [] doc'' → (n = [] → doc'' = doc') →
      Takes (do blanks; lines (fuel + 1) doc) start (text ++ n ++ more) [] doc'' := by
  cases hl with
  | @blank b remark hb hc =>
    cases hrun
    refine ⟨doc, hs, fun hnext hfinish => ?_⟩
    cases hc with
    | none =>
      cases h with
      | finish =>
        have hlines : Takes (do blanks; lines (fuel + 1) doc) start (b ++ []) [] doc :=
          takes_lines_behind hb (by simp) takes_lines_nil
        simpa [hfinish rfl] using hlines
      | newline hn =>
        have hhead : ∀ c ∈ (n ++ more).head?, Rules.isBlank c = false := (LineEnds.newline hn).apart (by decide)
        have hlines := takes_lines_behind hb hhead (takes_lines_newline hn (by simpa [Nat.add_assoc] using hnext))
        simpa using hlines
    | @comment remark ht =>
      have hlines : Takes (lines (fuel + 1) doc) (start + byteLength b) ('#' :: remark ++ n ++ more) [] _ :=
        takes_lines_comment ht h (by simpa [Nat.add_assoc] using hnext)
      have htake := takes_lines_behind hb (by simp [Rules.isBlank]) hlines
      simpa using htake
  | @assignment depth b kv b' remark way key m hb hd hkv hb' hc =>
    have hdoes := hrun.single
    obtain ⟨doc', hline, hs'⟩ := takes_assignment (start + byteLength b) hd hkv hb' hc h hs hdoes
    refine ⟨doc', hs', fun hnext _ => ?_⟩
    obtain ⟨c, tail, rfl, hblank, hc⟩ := startsKey_keyValue hkv
    have hlines := takes_lines_assignment hc hline (by simpa [Nat.add_assoc] using hnext)
    have htake := takes_lines_behind hb (by simpa using hblank) hlines
    simpa using htake
  | @table b b' k b'' remark way key hb hb' hk hb'' hc =>
    have hdoes := hrun.single
    obtain ⟨doc', hline, hs'⟩ := takes_header_table (start + byteLength b) hb' hk hb'' hc h hs hdoes
    refine ⟨doc', hs', fun hnext _ => ?_⟩
    have hlines := takes_lines_header hline (by simpa [Nat.add_assoc] using hnext)
    have htake := takes_lines_behind hb (by simp [Rules.isBlank]) hlines
    simpa using htake
  | @element b b' k b'' remark way key hb hb' hk hb'' hc =>
    have hdoes := hrun.single
    obtain ⟨doc', hline, hs'⟩ := takes_header_element (start + byteLength b) hb' hk hb'' hc h hs hdoes
    refine ⟨doc', hs', fun hnext _ => ?_⟩
    have hlines := takes_lines_header hline (by simpa [Nat.add_assoc] using hnext)
    have htake := takes_lines_behind hb (by simp [Rules.isBlank]) hlines
    simpa using htake

lemma takes_lines {directives : List Directive} (h : Spells Limits.reader text directives)
    (hrun : Run directives draft draft') (hs : doc.Shows draft) (start fuel : ℕ) (hf : text.length < fuel) :
    ∃ doc', Takes (do blanks; lines fuel doc) start text [] doc' ∧ doc'.Shows draft' := by
  induction h generalizing doc draft start fuel with
  | @last text directives hl =>
    obtain ⟨fuel, rfl⟩ := Nat.exists_eq_succ_of_ne_zero (by omega : fuel ≠ 0)
    obtain ⟨doc', hs', hline⟩ := takes_line hl hrun hs start fuel .finish
    have hnext : Takes (do blanks; lines fuel doc') (start + byteLength (text ++ [])) [] [] doc' := by
      cases fuel <;> rfl
    exact ⟨doc', by simpa using hline hnext fun _ => rfl, hs'⟩
  | @more text n rest directives others hl hn _ ih =>
    have hpos : n ≠ [] := by cases hn <;> simp
    have hlength : 0 < n.length := List.length_pos_iff.mpr hpos
    simp only [List.length_append] at hf
    obtain ⟨fuel, rfl⟩ := Nat.exists_eq_succ_of_ne_zero (by omega : fuel ≠ 0)
    obtain ⟨next, hfront, hback⟩ := hrun.append
    obtain ⟨doc', hs', hline⟩ := takes_line hl hfront hs start fuel (.newline hn)
    obtain ⟨doc'', hrest, hs''⟩ := ih hback hs' (start + byteLength (text ++ n)) fuel (by omega)
    exact ⟨doc'', hline hrest fun h => absurd h hpos, hs''⟩

def isMark (c : Char) : Bool := c = '\ufeff'

lemma head_line {directives : List Directive} (hl : Line Limits.reader text directives)
    (hr : ∀ c ∈ rest.head?, isMark c = false) : ∀ c ∈ (text ++ rest).head?, isMark c = false := by
  cases hl with
  | @blank b remark hb hc =>
    rw [List.append_assoc]
    refine apart_blanks hb (by decide) ?_
    cases hc with
    | none => exact hr
    | comment =>
      rintro c ⟨⟩
      rfl
  | assignment hb _ hkv =>
    simp only [List.append_assoc]
    refine apart_blanks hb (by decide) ?_
    obtain ⟨c, tail, rfl, -, hc⟩ := startsKey_keyValue hkv
    rintro d ⟨⟩
    simp only [List.mem_cons, not_or] at hc
    simp [isMark, hc]
  | table hb =>
    simp only [List.append_assoc]
    refine apart_blanks hb (by decide) ?_
    rintro c ⟨⟩
    rfl
  | element hb =>
    simp only [List.append_assoc]
    refine apart_blanks hb (by decide) ?_
    rintro c ⟨⟩
    rfl

lemma head_spells {directives : List Directive} (h : Spells Limits.reader text directives) :
    text.head? ≠ some '\ufeff' := by
  intro hmark
  cases h with
  | last hl =>
    have hline : ∀ c ∈ (text ++ []).head?, isMark c = false := head_line hl (by simp)
    rw [List.append_nil] at hline
    cases hline _ hmark
  | more hl hn =>
    rw [List.append_assoc] at hmark
    cases head_line hl ((LineEnds.newline hn).apart (by decide)) _ hmark

end Reader

theorem parse_of_describes {text : Text} {bindings : Bindings} (h : Describes Limits.reader text bindings) :
    ∃ doc, Document.parse text = .ok doc ∧ doc.entries.Mean bindings := by
  obtain ⟨directives, hspells, draft, hrun, hm⟩ := h
  obtain ⟨doc, hlines, hs⟩ :=
    Reader.takes_lines hspells hrun Document.shows_empty 0 (text.length + 1) (Nat.lt_succ_self _)
  have hread : Reader.Takes (do
      let _ ← Reader.optional (Reader.char '\ufeff')
      Reader.blanks
      Reader.lines (text.length + 1) .empty) 0 text [] doc :=
    Reader.Takes.first (Reader.Refuses.optional (Reader.refuses_char (by simpa using Reader.head_spells hspells)))
      hlines
  rw [Reader.Takes, List.append_nil] at hread
  have hdocument : Reader.document ⟨text, 0⟩ = .done doc ⟨[], 0 + byteLength text⟩ := hread
  refine ⟨doc, ?_, hs.entries.mean hm⟩
  rw [Document.parse, hdocument]

end DeclSplit.Toml
