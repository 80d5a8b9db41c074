import DeclSplit.Proofs.Syntax.Words
import DeclSplit.Proofs.Text.Utf8
import DeclSplit.Syntax.Program

/-! Every name that a program introduces stands apart in the text of its statement. -/

namespace DeclSplit

open Text

variable {source : List Char} {span : Span} {s t : Cursor} {name : Token}

/-- A token stands apart in a stretch of the source: what is in front of it there ends with a separator, and
what follows does not go on with the word.  The stretch is one of whole characters. -/
structure Names (source : List Char) (span : Span) (name : Token) : Prop where
  occurs : slice source name.start name.stop = name.lexeme
  apart : ∃ front back, slice source span.start span.stop = front ++ name.lexeme ++ back ∧
    (∀ c ∈ front.getLast?, isSeparator c = true) ∧ (∀ c ∈ back.head?, isIdentifierChar c = false)
  nonempty : name.lexeme ≠ []
  escaped : name.isEscaped = true ↔ '\\' ∈ name.lexeme
  parts : ∀ c ∈ name.name, isNamePart c = true
  whole : Occurs source span.start (slice source span.start span.stop) ∧
    span.start + byteLength (slice source span.start span.stop) = span.stop

def Named (s t : Cursor) (name : Token) : Prop :=
  ∃ (word : Keyword) (c : Cursor), s.Before c ∧ c.token.kind = .keyword word ∧
    (c.next Lexeme.read).token = name ∧ name.kind.isIdentifier = true ∧
    ((c.next Lexeme.read).next Lexeme.read).token.kind ≠ .unreadable ∧
    ((c.next Lexeme.read).next Lexeme.read).Before t

lemma isWord_of_isIdentifier {kind : TokenKind} (h : kind.isIdentifier = true) : kind.isWord = true := by
  cases kind <;> simp_all [TokenKind.isIdentifier, TokenKind.isWord]

namespace Named

lemma extend {s' t' : Cursor} (h : Named s t name) (hs : s'.Before s) (ht : t.Before t') : Named s' t' name := by
  obtain ⟨word, c, hc, hword, hname, hident, hread, hafter⟩ := h
  exact ⟨word, c, hs.trans hc, hword, hname, hident, hread, hafter.trans ht⟩

theorem names (h : Named s t name) : Names s.source ⟨s.token.start, t.lastEnd⟩ name := by
  obtain ⟨word, c, hc, hword, rfl, hident, hread, hafter⟩ := h
  obtain ⟨gap, first, r, hrest, hgap, hopens, hstart, hlexeme, hdecoded, hleft⟩ :=
    Cursor.next_word (isWord_of_isIdentifier hident)
  set n := c.next Lexeme.read with hn
  -- The keyword in front of the name ends before it, so the gap between them cannot be empty.
  have hne : gap ≠ [] := by
    rintro rfl
    have hends := c.word_ends word hword
    rw [hrest, List.nil_append, endsName_cons_of_opensName hopens] at hends
    cases hends
  have hmore : ∀ x ∈ n.rest.head?, isIdentifierChar x = false :=
    Cursor.isIdentifierChar_after_word (isWord_of_isIdentifier hident) hread
  obtain ⟨before, hwhole, hbefore⟩ := c.rest_remains
  have hsource : c.source = before ++ (gap ++ n.token.lexeme) ++ n.rest := by
    rw [hwhole, hrest, hlexeme, hleft, List.append_assoc, List.append_assoc, List.take_append_drop]
  have hfrom : s.token.start ≤ byteLength before := by
    have := hc.start
    have := c.start_le_stop
    have := c.stop_le
    omega
  have hto : byteLength (before ++ (gap ++ n.token.lexeme)) ≤ t.lastEnd := by
    have hstop : n.token.stop ≤ t.lastEnd := hafter.lastEnd
    rw [n.token_stop, hstart] at hstop
    simp only [byteLength_append]
    omega
  obtain ⟨front, back, hslice, tail, hback⟩ : ∃ front back,
      slice (before ++ (gap ++ n.token.lexeme) ++ n.rest) s.token.start t.lastEnd =
        front ++ (gap ++ n.token.lexeme) ++ back ∧ back <+: n.rest := slice_around hfrom hto
  have hwide : s.token.start ≤ t.lastEnd := by
    rw [byteLength_append] at hto
    omega
  obtain ⟨behind, hbehind⟩ := t.lastEnd_remains
  rw [hafter.source.trans hc.source] at hbehind
  obtain ⟨pre, post, hpre⟩ := s.token_occurs
  refine ⟨?_, ⟨front ++ gap, back, ?_, ?_, ?_⟩, ?_, ?_, ?_, ?_⟩
  · rw [← hc.source]
    exact n.slice_token
  · rw [← hc.source, hsource, hslice]
    simp only [List.append_assoc]
  · rwa [List.getLast?_append_of_ne_nil _ hne]
  · intro x hx
    apply hmore
    simp [← hback, List.head?_append, Option.mem_def.mp hx]
  · rw [hlexeme]
    simp [(Lexeme.length_ofWord_pos hopens).ne']
  · rw [Token.isEscaped, hdecoded, hlexeme]
    exact Lexeme.isSome_decoded_ofWord hopens
  · intro x hx
    rw [Token.name, hdecoded, hlexeme] at hx
    exact Lexeme.isNamePart_of_mem_ofWord hx
  · exact occurs_slice ⟨pre, hpre.1.trans (List.append_assoc _ _ _), hpre.2⟩ hbehind hwide

end Named

namespace Parser

variable {α β : Type} {p q : Parser α} {f : α → Parser β} {Q R : α → Cursor → Prop} {S : β → Cursor → Prop}

/-- Unless `p` meets a fault that cannot be passed over, its answer and the cursor it leads to are such. -/
def Ensures (p : Parser α) (s : Cursor) (Q : α → Cursor → Prop) : Prop :=
  (p s).next.fatal = none → Q (p s).value (p s).next

lemma Ensures.mono (h : Ensures p s Q) (hi : ∀ a t, s.Before t → Q a t → R a t) : Ensures p s R :=
  fun hf => hi _ _ (p s).forward (h hf)

lemma Ensures.bind (h : Ensures p s Q) (hk : ∀ a t, s.Before t → Q a t → Ensures (f a) t S) :
    Ensures (p >>= f) s S := fun hf =>
  hk _ _ (p s).forward (h ((f (p s).value (p s).next).forward.sound hf)) hf

lemma ensures_value {a : α} (h : (p s).value = a) : Ensures p s fun b _ => b = a := fun _ => h

lemma ensures_kind {f : TokenKind → Parser β} (h : Ensures (f s.token.kind) s S) : Ensures (kind >>= f) s S := h

lemma ensures_cursor {f : Cursor → Parser β} (h : Ensures (f s) s S) : Ensures (cursor >>= f) s S := h

lemma ensures_token {f : Token → Parser β} (h : Ensures (f s.token) s S) : Ensures (token >>= f) s S := h

lemma ensures_typed {f : Bool → Parser β} (h : Ensures (f s.dialect.typed) s S) : Ensures (typed >>= f) s S := h

lemma ensures_atKind {k : TokenKind} {f : Bool → Parser β} (h : Ensures (f (s.token.kind == k)) s S) :
    Ensures (atKind k >>= f) s S := h

lemma value_skip {b : β} (h : ∀ a t, (f a t).value = b) : ((p >>= f) s).value = b :=
  h (p s).value (p s).next

lemma ensures_exhausted {f : Bool → Parser β}
    (h : Ensures (f (s.token.kind.isExhausted || s.fatal.isSome)) s S) : Ensures (exhausted >>= f) s S := h

lemma fatal_failWith (d : Diagnostic) : (s.failWith d).fatal ≠ none := by
  unfold Cursor.failWith
  split
  · rename_i h
    simp [h]
  · simp

lemma fatal_refuse : s.refuse.fatal ≠ none := by
  unfold Cursor.refuse
  split <;> exact fatal_failWith _

lemma ensures_require (k : TokenKind) : Ensures (require k) s fun _ t => s.token.kind = k ∧ t = s := by
  unfold require
  apply ensures_kind
  split
  · rename_i h
    exact fun _ => ⟨eq_of_beq h, rfl⟩
  · exact fun hf => absurd hf (fatal_failWith _)

lemma ensures_advance :
    Ensures advance s fun _ t => ∃ c, s.Before c ∧ c.token = s.token ∧ t = c.next Lexeme.read := by
  unfold advance
  apply ensures_token
  split
  · exact fun _ => ⟨s.report .escapedKeyword, s.before_report _, rfl, rfl⟩
  · exact fun _ => ⟨s, .refl s, rfl, rfl⟩

lemma ensures_expect (k : TokenKind) : Ensures (expect k) s fun _ t =>
    s.token.kind = k ∧ ∃ c, s.Before c ∧ c.token = s.token ∧ t = c.next Lexeme.read := by
  refine (ensures_require k).bind ?_
  rintro _ _ _ ⟨hk, rfl⟩
  exact ensures_advance.mono fun _ _ _ hc => ⟨hk, hc⟩

lemma ensures_bindingName : Ensures bindingName s fun name t =>
    name = s.token ∧ name.kind.isIdentifier = true ∧ t = s.next Lexeme.read := by
  unfold bindingName
  apply ensures_token
  split
  · rename_i h
    exact fun _ => ⟨rfl, h, rfl⟩
  · split
    · exact fun hf => absurd hf (fatal_failWith _)
    · exact fun hf => absurd hf fatal_refuse

lemma ensures_typeParameters (g : Grammar) :
    Ensures (Parameters.typeParameters g) s fun _ t => s.token.kind ≠ .unreadable ∨ t = s := by
  unfold Parameters.typeParameters
  apply ensures_typed
  split
  · apply ensures_atKind
    split
    · rename_i h
      intro _
      simp [eq_of_beq h]
    · exact fun _ => .inr rfl
  · exact fun _ => .inr rfl

lemma ensures_heritage (g : Grammar) :
    Ensures (Classes.heritage g) s fun _ t => s.token.kind ≠ .unreadable ∨ t = s := by
  unfold Classes.heritage
  apply ensures_cursor
  rw [Classes.heritage.rounds]
  apply ensures_kind
  split
  · rename_i h
    intro _
    simp [h]
  · rename_i h
    intro _
    simp [h]
  · exact fun _ => .inr rfl

lemma ensures_members (g : Grammar) :
    Ensures (Types.members g) s fun _ _ => s.token.kind = .punctuator .lCurly := by
  refine (ensures_expect (.punctuator .lCurly)).bind ?_
  rintro _ _ _ ⟨hk, -⟩
  exact fun _ => hk

def NamesPassed (token? : α → Option Token) (p : Parser α) : Prop :=
  ∀ s, Ensures p s fun a t => ∀ name ∈ token? a, Named s t name

namespace NamesPassed

variable {token? : α → Option Token} {form? : β → Option Token}

lemma pure {a : α} (h : token? a = none) : NamesPassed token? (Pure.pure a : Parser α) := by
  intro s _ name hn
  change name ∈ token? a at hn
  simp [h] at hn

lemma skip (h : ∀ a, NamesPassed form? (f a)) : NamesPassed form? (p >>= f) := by
  intro s hf name hn
  exact (h _ _ hf name hn).extend (p s).forward (.refl _)

lemma wrap {wrapping : α → β} (h : NamesPassed token? p) (hw : ∀ a, form? (wrapping a) = token? a) :
    NamesPassed form? (do return wrapping (← p)) := by
  intro s hf name hn
  change name ∈ form? (wrapping (p s).value) at hn
  rw [hw] at hn
  exact h s hf name hn

lemma inContext {change : Context → Context} (h : NamesPassed token? p) :
    NamesPassed token? (Parser.inContext change p) := by
  intro s hf name hn
  exact (h _ hf name hn).extend (s.before_withContext _) (Cursor.before_withContext _ _)

end NamesPassed

end Parser

def Introduced.token? : Introduced → Option Token
  | typeAlias name | enum name | interface name => some name
  | other => none

def InnerDeclaration.token? (inner : InnerDeclaration) : Option Token := inner.declared.token?

def StatementForm.token? : StatementForm → Option Token
  | bare declared => declared.token?
  | exported inner => inner.bind (·.token?)
  | exportedDefault inner => inner.token?
  | other => none

namespace Declarations

open DeclSplit.Parser

variable (g : Grammar) (modifiers : List Keyword)

lemma namesPassed_of_rest {word : Keyword} {rest : Token → Parser Introduced} (make : Token → Introduced)
    (hm : ∀ name, (make name).token? = some name)
    (hr : ∀ name s, Ensures (rest name) s fun i _ => s.token.kind ≠ .unreadable ∧ i = make name) :
    NamesPassed Introduced.token? (do expectWord word; let name ← bindingName; rest name) := by
  intro s
  refine (ensures_expect (.keyword word)).bind ?_
  rintro _ _ _ ⟨hword, c, hc, htoken, rfl⟩
  refine ensures_bindingName.bind ?_
  rintro _ _ _ ⟨rfl, hident, rfl⟩
  refine (hr _ _).mono ?_
  rintro _ t ht ⟨hread, rfl⟩ name hn
  obtain rfl : (c.next Lexeme.read).token = name := by simpa [hm] using hn
  exact ⟨word, c, hc, by rw [htoken, hword], rfl, hident, hread, ht⟩

lemma typeAlias_namesPassed : NamesPassed Introduced.token? (typeAlias g modifiers) := by
  refine namesPassed_of_rest .typeAlias (fun _ => rfl) ?_
  intro name s
  refine (ensures_typeParameters g).bind ?_
  rintro _ t _ hstays
  refine (ensures_expect (.punctuator .eq)).bind ?_
  rintro _ _ _ ⟨hmark, -⟩
  have hread : s.token.kind ≠ .unreadable := by
    rcases hstays with h | rfl
    · exact h
    · simp [hmark]
  refine (ensures_value ?_).mono fun _ _ _ h => ⟨hread, h⟩
  refine value_skip fun intrinsic _ => ?_
  cases intrinsic with
  | true => exact value_skip fun isIntrinsic _ => by cases isIntrinsic <;> rfl
  | false => rfl

lemma interface_namesPassed : NamesPassed Introduced.token? (interface g modifiers) := by
  refine namesPassed_of_rest .interface (fun _ => rfl) ?_
  intro name s
  refine (ensures_typeParameters g).bind ?_
  rintro _ t _ hparameters
  refine (ensures_heritage g).bind ?_
  rintro heritage u _ hheritage
  refine (ensures_members g).bind ?_
  rintro _ _ _ hmark
  have hread : s.token.kind ≠ .unreadable := by
    rcases hparameters with h | rfl
    · exact h
    · rcases hheritage with h | rfl
      · exact h
      · simp [hmark]
  refine (ensures_value ?_).mono fun _ _ _ h => ⟨hread, h⟩
  refine value_skip fun _ _ => value_skip fun _ _ => ?_
  split <;> rfl

lemma enum_namesPassed : NamesPassed Introduced.token? (enum g modifiers) := by
  refine namesPassed_of_rest .enum (fun _ => rfl) ?_
  intro name s
  refine (ensures_expect (.punctuator .lCurly)).bind ?_
  rintro _ _ _ ⟨hmark, -⟩
  exact (ensures_value rfl).mono fun _ _ _ h => ⟨by simp [hmark], h⟩

lemma declaration_namesPassed : NamesPassed Introduced.token? (declaration g modifiers) := by
  refine .skip fun _ => ?_
  split
  case h_10 => exact typeAlias_namesPassed g modifiers
  case h_11 => exact enum_namesPassed g modifiers
  case h_12 => exact interface_namesPassed g modifiers
  case h_6 =>
    refine .skip fun _ => .skip fun _ => .skip fun _ => .skip fun _ => ?_
    split
    · exact .skip fun _ => .skip fun _ => .pure rfl
    · exact .skip fun _ => .pure rfl
  case h_7 | h_8 | h_9 | h_13 => exact .skip fun _ => .pure rfl
  all_goals exact .skip fun _ => .skip fun _ => .pure rfl

lemma modifiedDeclaration_namesPassed : NamesPassed Introduced.token? (modifiedDeclaration g) :=
  .skip fun modifiers => .inContext (declaration_namesPassed g modifiers)

end Declarations

namespace Modules

open DeclSplit.Parser

variable (g : Grammar)

lemma exportedDefault_namesPassed : NamesPassed Introduced.token? (exportedDefault g) := by
  refine .skip fun _ => .skip fun _ => ?_
  split
  · exact .skip fun _ => .pure rfl
  refine .skip fun _ => .skip fun _ => ?_
  split
  · exact .skip fun _ => .skip fun _ => .pure rfl
  refine .skip fun _ => .skip fun _ => ?_
  split
  · refine .skip fun _ => ?_
    split
    · exact Declarations.interface_namesPassed g []
    · exact .skip fun _ => .pure rfl
  refine .skip fun _ => .skip fun _ => ?_
  split
  · exact .skip fun _ => .pure rfl
  · exact .skip fun _ => .skip fun _ => .pure rfl

lemma standing_namesPassed {declaration : Parser Introduced} (h : NamesPassed Introduced.token? declaration) :
    NamesPassed InnerDeclaration.token? (standing declaration) := h

lemma exported_namesPassed : NamesPassed StatementForm.token? (do
    Parameters.decorators g
    if ← typed then return .exported (some (← standing (Declarations.modifiedDeclaration g)))
    return .exported (some (← standing do
      let isAsync ← eatWord .async
      Declarations.declaration g (if isAsync then [.async] else [])))) := by
  refine .skip fun _ => .skip fun _ => ?_
  split
  · exact .wrap (standing_namesPassed (Declarations.modifiedDeclaration_namesPassed g)) fun _ => rfl
  · exact .wrap (standing_namesPassed (.skip fun _ => Declarations.declaration_namesPassed g _)) fun _ => rfl

lemma exportStatement_namesPassed : NamesPassed StatementForm.token? (exportStatement g) := by
  refine .skip fun _ => .skip fun kind => ?_
  split
  case h_1 =>
    refine .skip fun _ => ?_
    split
    · exact .skip fun _ => .skip fun _ => .skip fun _ => .pure rfl
    · exact .skip fun _ => .pure rfl
  case h_2 =>
    refine .skip fun _ => ?_
    split
    · exact .skip fun _ => .skip fun _ => .skip fun _ => .skip fun _ => .pure rfl
    · exact .skip fun _ => .pure rfl
  case h_3 => exact .skip fun _ => .wrap (standing_namesPassed (exportedDefault_namesPassed g)) fun _ => rfl
  case h_4 | h_5 => exact .skip fun _ => .pure rfl
  case h_6 =>
    refine .skip fun _ => ?_
    split
    · refine .skip fun _ => ?_
      split
      · exact .skip fun _ => .pure rfl
      · exact .skip fun _ => .pure rfl
      · exact exported_namesPassed g
    · exact exported_namesPassed g

end Modules

namespace Statements

open DeclSplit.Parser

variable (g : Grammar)

lemma decorated_namesPassed : NamesPassed StatementForm.token? (decorated g) := by
  refine .skip fun _ => .skip fun _ => ?_
  split
  · exact Modules.exportStatement_namesPassed g
  · refine .skip fun _ => .skip fun _ => ?_
    split <;> exact .skip fun _ => .pure rfl

lemma wordStatement_namesPassed (word : Keyword) : NamesPassed StatementForm.token? (do
    if word == .async && (← Functions.isAsyncFunction) then
      Functions.declaration g
      return .other
    if mayDeclare word && (← typed) && (← Declarations.begins) then
      return .bare (← Declarations.modifiedDeclaration g)
    if (← usingBegins) || (← awaitUsingBegins) then usingStatement g else expressionStatement g
    return .other) := by
  refine .skip fun _ => ?_
  split
  · exact .skip fun _ => .pure rfl
  refine .skip fun _ => .skip fun _ => ?_
  split
  · exact .wrap (Declarations.modifiedDeclaration_namesPassed g) fun _ => rfl
  refine .skip fun _ => .skip fun _ => ?_
  split <;> exact .skip fun _ => .pure rfl

lemma statement_namesPassed (single : Bool) : NamesPassed StatementForm.token? (statement g single) := by
  refine .skip fun kind => ?_
  split
  case h_3 => exact decorated_namesPassed g
  case h_4 word =>
    split
    case h_11 => exact .skip fun _ => .skip fun _ => .pure rfl
    case h_13 => exact Modules.exportStatement_namesPassed g
    case h_17 =>
      refine .skip fun _ => ?_
      split <;> exact .skip fun _ => .pure rfl
    case h_19 =>
      refine .skip fun _ => .skip fun _ => ?_
      split
      · exact .skip fun _ => .wrap (Declarations.enum_namesPassed g [.const]) fun _ => rfl
      · exact .skip fun _ => .pure rfl
    case h_20 => exact wordStatement_namesPassed g word
    all_goals exact .skip fun _ => .pure rfl
  all_goals exact .skip fun _ => .pure rfl

end Statements

namespace Program

open DeclSplit.Parser

lemma located_names (g : Grammar) (s : Cursor) :
    Ensures (located g) s fun statement _ => ∀ name ∈ statement.form.token?, Names s.source statement.span name := by
  intro hf name hn
  exact (Statements.statement_namesPassed g false s hf name hn).names

lemma ensures_collectTimes {α : Type} {item : Parser (Option α)} {P : α → Prop}
    (hi : ∀ s, s.source = source → Ensures item s fun a _ => ∀ x ∈ a, P x) (n : ℕ) (hs : s.source = source) :
    Ensures (collectTimes item n) s fun as _ => ∀ x ∈ as, P x := by
  induction n generalizing s with
  | zero =>
    intro _ x hx
    change x ∈ [] at hx
    simp at hx
  | succ n ih =>
    refine (hi s hs).bind ?_
    intro a t ht ha
    split
    · rename_i first
      refine (ih (ht.source.trans hs)).bind ?_
      intro others u _ hothers _ x hx
      change x ∈ first :: others at hx
      rcases List.mem_cons.mp hx with rfl | hx
      · exact ha x rfl
      · exact hothers x hx
    · intro _ x hx
      change x ∈ [] at hx
      simp at hx

lemma ensures_collect {α : Type} {item : Parser (Option α)} {P : α → Prop}
    (hi : ∀ s, s.source = source → Ensures item s fun a _ => ∀ x ∈ a, P x) (hs : s.source = source) :
    Ensures (collect item) s fun as _ => ∀ x ∈ as, P x := by
  unfold Ensures collect
  exact ensures_collectTimes hi _ hs

lemma ensures_statementList (g : Grammar) (s : Cursor) : Ensures (statementList g) s fun all _ =>
    ∀ statement ∈ all, ∀ name ∈ statement.form.token?, Names s.source statement.span name := by
  unfold statementList
  refine ensures_collect ?_ rfl
  intro u hu
  apply ensures_exhausted
  split
  · intro _ statement hs
    cases hs
  · refine (located_names g u).bind ?_
    intro found _ _ hfound _ statement hs
    obtain rfl : found = statement := Option.some.inj hs
    rwa [hu] at hfound

theorem names_of_mem {dialect : Dialect} {statement : Statement}
    (hm : statement ∈ (parse dialect source).statements) (hn : name ∈ statement.form.token?) :
    Names source statement.span name := by
  simp only [parse] at hm
  split at hm
  · rename_i hf
    exact ensures_statementList _ _ hf statement hm name hn
  · cases hm

end Program

end DeclSplit
