import DeclSplit.Syntax.Lexeme
import DeclSplit.Text.Bytes

/-!
The cursor of a parser: the token in front of it, what is left to read behind that token, and what has
been found wrong so far.  Every cursor is well placed, that is, its token and its rest stand in the source
where it says, no character of the source reaches over the end of the token before, and a keyword has been read
to its end; every step leads to a cursor that is not further back (`Cursor.Before`).

After the first fault that cannot be passed over, the rest counts as read: the token in front stays, and
every later step finds the end of the text.
-/

namespace DeclSplit

open Text

structure Context where
  -- `in` is an operator.
  allowIn : Bool
  inGenerator : Bool
  inAsync : Bool
  inFunction : Bool
  inDecorator : Bool
  ambient : Bool
  -- An `extends` behind a type does not begin a conditional type.
  noConditionalTypes : Bool
deriving DecidableEq, Repr

structure Cursor where
  dialect : Dialect
  source : List Char
  -- In bytes.
  size : Nat
  rest : List Char
  -- Where the rest begins, in bytes.
  offset : Nat
  token : Token
  lastEnd : Nat
  context : Context
  lexical : List Diagnostic
  syntactic : List Diagnostic
  /-- The first fault that cannot be passed over, and how many syntactic ones came before it. -/
  fatal : Option (Diagnostic × Nat)
  size_eq : size = byteLength source
  token_occurs : Occurs source token.start token.lexeme
  token_stop : token.stop = token.start + byteLength token.lexeme
  rest_remains : Remains source offset rest
  lastEnd_remains : ∃ tail, Remains source lastEnd tail
  lastEnd_le : lastEnd ≤ token.start
  stop_le : token.stop ≤ offset
  word_ends : ∀ word, token.kind = .keyword word → endsName rest = true

namespace Cursor

def tokenOf (lexeme : Lexeme) (text : List Char) (start : Nat) (newline : Bool) : Token :=
  let chars := text.take lexeme.length
  ⟨lexeme.kind, start, start + byteLength chars, chars, lexeme.decoded, newline⟩

def atStart (dialect : Dialect) (context : Context) (source : List Char) : Cursor where
  dialect := dialect
  source := source
  size := byteLength source
  rest := source
  offset := 0
  token := ⟨.unreadable, 0, 0, [], none, false⟩
  lastEnd := 0
  context := context
  lexical := []
  syntactic := []
  fatal := none
  size_eq := rfl
  token_occurs := ⟨[], source, by simp, rfl⟩
  token_stop := rfl
  rest_remains := .refl source
  lastEnd_remains := ⟨source, .refl source⟩
  lastEnd_le := Nat.le_refl 0
  stop_le := Nat.le_refl 0
  word_ends := nofun

def step (c : Cursor) (gap : Nat) (newline : Bool) (scan : Scanner) : Cursor :=
  let front := c.rest.drop gap
  let start := c.offset + byteLength (c.rest.take gap)
  let lexeme := scan front
  { c with
    rest := front.drop lexeme.length
    offset := start + byteLength (front.take lexeme.length)
    token := tokenOf lexeme front start newline
    lastEnd := c.token.stop
    lexical := lexeme.faults.reverse ++ c.lexical
    token_occurs := (c.rest_remains.drop gap).take lexeme.length
    token_stop := rfl
    rest_remains := (c.rest_remains.drop gap).drop lexeme.length
    lastEnd_remains := c.token_stop ▸ c.token_occurs.remains
    lastEnd_le := Nat.le_trans c.stop_le (Nat.le_add_right _ _)
    stop_le := Nat.le_refl _
    word_ends := scan.word_ends front }

def next (c : Cursor) (scan : Scanner) : Cursor :=
  let gap := Gap.read c.dialect .outside 0 false c.rest
  c.step gap.length gap.newline
    (if gap.unclosed then Lexeme.readUnclosed else scan)

def first (c : Cursor) : Cursor :=
  let line := Gap.interpreterLine c.rest
  let gap := Gap.read c.dialect .outside line false (c.rest.drop line)
  c.step gap.length gap.newline
    (if gap.unclosed then Lexeme.readUnclosed else Lexeme.read)

def reread (c : Cursor) (scan : Scanner) : Cursor :=
  if contiguous : c.offset = c.token.stop then
    let text := c.token.lexeme ++ c.rest
    let lexeme := scan text
    let whole : Remains c.source c.token.start text :=
      c.token_occurs.restore (c.token_stop ▸ contiguous ▸ c.rest_remains)
    { c with
      rest := text.drop lexeme.length
      offset := c.token.start + byteLength (text.take lexeme.length)
      token := tokenOf lexeme text c.token.start c.token.newlineBefore
      lexical := lexeme.faults.reverse ++ c.lexical
      token_occurs := whole.take lexeme.length
      token_stop := rfl
      rest_remains := whole.drop lexeme.length
      lastEnd_remains := c.lastEnd_remains
      lastEnd_le := c.lastEnd_le
      stop_le := Nat.le_refl _
      word_ends := scan.word_ends text }
  else c

theorem offset_le_size (c : Cursor) : c.offset ≤ c.size := by
  obtain ⟨before, whole, length⟩ := c.rest_remains
  rw [c.size_eq, whole, ← length, byteLength_append]
  exact Nat.le_add_right _ _

def failWith (c : Cursor) (d : Diagnostic) : Cursor :=
  match c.fatal with
  | some _ => c
  | none =>
    { c with
      rest := []
      offset := c.size
      fatal := some (d, c.syntactic.length)
      rest_remains := c.size_eq ▸ .at_end c.source
      stop_le := Nat.le_trans c.stop_le c.offset_le_size
      word_ends := fun _ _ => rfl }

def withLexical (c : Cursor) (faults : List Diagnostic) : Cursor := { c with lexical := faults }

def refuse (c : Cursor) : Cursor :=
  match c.token.kind.isExhausted, c.lexical with
  | true, fault :: older => (c.withLexical older).failWith fault
  | _, _ => c.failWith .unexpectedToken

def report (c : Cursor) (d : Diagnostic) : Cursor := { c with syntactic := d :: c.syntactic }

def withContext (c : Cursor) (context : Context) : Cursor := { c with context := context }

structure Before (s t : Cursor) : Prop where
  source : t.source = s.source
  start : s.token.start ≤ t.token.start
  lastEnd : s.lastEnd ≤ t.lastEnd
  sound : t.fatal = none → s.fatal = none

namespace Before

theorem refl (s : Cursor) : Before s s := ⟨rfl, Nat.le_refl _, Nat.le_refl _, id⟩

theorem trans {s t u : Cursor} (h : Before s t) (k : Before t u) : Before s u :=
  ⟨k.source.trans h.source, Nat.le_trans h.start k.start, Nat.le_trans h.lastEnd k.lastEnd,
    h.sound ∘ k.sound⟩

end Before

theorem start_le_stop (c : Cursor) : c.token.start ≤ c.token.stop :=
  c.token_stop ▸ Nat.le_add_right _ _

theorem before_step (c : Cursor) (gap : Nat) (newline : Bool) (scan : Scanner) :
    c.Before (c.step gap newline scan) :=
  ⟨rfl, Nat.le_trans c.start_le_stop (c.step gap newline scan).lastEnd_le,
    Nat.le_trans c.lastEnd_le c.start_le_stop, id⟩

theorem before_next (c : Cursor) (scan : Scanner) : c.Before (c.next scan) :=
  before_step ..

theorem before_reread (c : Cursor) (scan : Scanner) : c.Before (c.reread scan) := by
  unfold reread
  split
  · exact ⟨rfl, Nat.le_refl _, Nat.le_refl _, id⟩
  · exact .refl c

theorem before_failWith (c : Cursor) (d : Diagnostic) : c.Before (c.failWith d) := by
  unfold failWith
  split
  · exact .refl c
  · exact ⟨rfl, Nat.le_refl _, Nat.le_refl _, nofun⟩

theorem before_withLexical (c : Cursor) (faults : List Diagnostic) :
    c.Before (c.withLexical faults) :=
  ⟨rfl, Nat.le_refl _, Nat.le_refl _, id⟩

theorem before_refuse (c : Cursor) : c.Before c.refuse := by
  unfold refuse
  split
  · exact (before_withLexical _ _).trans (before_failWith _ _)
  · exact before_failWith _ _

theorem before_report (c : Cursor) (d : Diagnostic) : c.Before (c.report d) :=
  ⟨rfl, Nat.le_refl _, Nat.le_refl _, id⟩

theorem before_withContext (c : Cursor) (context : Context) : c.Before (c.withContext context) :=
  ⟨rfl, Nat.le_refl _, Nat.le_refl _, id⟩

theorem slice_token (c : Cursor) : slice c.source c.token.start c.token.stop = c.token.lexeme :=
  c.token_stop ▸ slice_of_occurs c.token_occurs

end Cursor

end DeclSplit
