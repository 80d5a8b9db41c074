import DeclSplit.Syntax.Cursor

/-!
Parsers.  A parser takes a cursor to a value and a cursor that is not further back: the second is part of
its type, so every parser built from these has it.  A parser always answers; a fault that cannot be passed
over is recorded in the cursor, and whatever is read after it is of no account.
-/

namespace DeclSplit

structure Reply (α : Type) (s : Cursor) where
  value : α
  next : Cursor
  forward : s.Before next

def Parser (α : Type) := (s : Cursor) → Reply α s

namespace Parser

@[inline] protected def pure {α : Type} (a : α) : Parser α := fun s => ⟨a, s, .refl s⟩

@[inline] protected def bind {α β : Type} (p : Parser α) (f : α → Parser β) : Parser β := fun s =>
  let r := p s
  let t := f r.value r.next
  ⟨t.value, t.next, r.forward.trans t.forward⟩

instance : Monad Parser where
  pure := Parser.pure
  bind := Parser.bind

instance {α : Type} [Inhabited α] : Inhabited (Parser α) := ⟨Parser.pure default⟩

def cursor : Parser Cursor := fun s => ⟨s, s, .refl s⟩

def token : Parser Token := fun s => ⟨s.token, s, .refl s⟩

def kind : Parser TokenKind := fun s => ⟨s.token.kind, s, .refl s⟩

def context : Parser Context := fun s => ⟨s.context, s, .refl s⟩

def dialect : Parser Dialect := fun s => ⟨s.dialect, s, .refl s⟩

def typed : Parser Bool := fun s => ⟨s.dialect.typed, s, .refl s⟩

def atKind (kind : TokenKind) : Parser Bool := fun s => ⟨s.token.kind == kind, s, .refl s⟩

def atMark (mark : Punctuator) : Parser Bool := atKind (.punctuator mark)

def atWord (word : Keyword) : Parser Bool := atKind (.keyword word)

def onNewLine : Parser Bool := fun s => ⟨s.token.newlineBefore, s, .refl s⟩

def failed : Parser Bool := fun s => ⟨s.fatal.isSome, s, .refl s⟩

def exhausted : Parser Bool := fun s => ⟨s.token.kind.isExhausted || s.fatal.isSome, s, .refl s⟩

def position : Parser Nat := fun s => ⟨s.token.start, s, .refl s⟩

def lastEnd : Parser Nat := fun s => ⟨s.lastEnd, s, .refl s⟩

def reported : Parser Nat := fun s => ⟨s.syntactic.length, s, .refl s⟩

def report (d : Diagnostic) : Parser Unit := fun s => ⟨(), s.report d, s.before_report d⟩

def failWith (d : Diagnostic) : Parser Unit := fun s => ⟨(), s.failWith d, s.before_failWith d⟩

def unexpected : Parser Unit := fun s => ⟨(), s.refuse, s.before_refuse⟩

def advanceWith (scan : Scanner) : Parser Unit := fun s => ⟨(), s.next scan, s.before_next scan⟩

def advanceName : Parser Unit := advanceWith Lexeme.read

def advance : Parser Unit := do
  let t ← token
  match t.kind, t.isEscaped with
  | .keyword _, true => report .escapedKeyword
  | _, _ => pure ()
  advanceName

def reread (scan : Scanner) : Parser Unit := fun s => ⟨(), s.reread scan, s.before_reread scan⟩

def eat (kind : TokenKind) : Parser Bool := do
  if ← atKind kind then
    advance
    return true
  return false

def eatMark (mark : Punctuator) : Parser Bool := eat (.punctuator mark)

def eatWord (word : Keyword) : Parser Bool := eat (.keyword word)

def skipMark (mark : Punctuator) : Parser Unit := do
  let _ ← eatMark mark

def require (kind : TokenKind) : Parser Unit := do
  let found ← Parser.kind
  unless found == kind do
    failWith (.expected kind.describe found.describe)

def expect (kind : TokenKind) : Parser Unit := do
  require kind
  advance

def expectMark (mark : Punctuator) : Parser Unit := expect (.punctuator mark)

def expectWord (word : Keyword) : Parser Unit := expect (.keyword word)

def either (p q : Parser Bool) : Parser Bool := do
  if ← p then return true
  q

def lookAhead {α : Type} (p : Parser α) : Parser α := fun s =>
  ⟨(p s).value, s, .refl s⟩

def attempt {α : Type} (p : Parser α) : Parser (Option α) := fun s =>
  let r := p s
  if r.next.fatal.isSome then ⟨none, s, .refl s⟩ else ⟨some r.value, r.next, r.forward⟩

def orReturn {α : Type} (p : Parser (Option α)) : Parser (Option α) := fun s =>
  let r := p s
  match r.value with
  | some a => ⟨some a, r.next, r.forward⟩
  | none => ⟨none, s, .refl s⟩

def inContext {α : Type} (change : Context → Context) (p : Parser α) : Parser α := fun s =>
  let r := p (s.withContext (change s.context))
  ⟨r.value, r.next.withContext s.context,
    (s.before_withContext _).trans (r.forward.trans (r.next.before_withContext _))⟩

def repeatTimes (body : Parser Bool) : Nat → Parser Unit
  | 0 => pure ()
  | n + 1 => do
    if ← body then repeatTimes body n

def repeatWhile (body : Parser Bool) : Parser Unit := fun s =>
  repeatTimes body (s.size - s.offset + 4) s

def collectTimes {α : Type} (item : Parser (Option α)) : Nat → Parser (List α)
  | 0 => pure []
  | n + 1 => do
    match ← item with
    | some a => return a :: (← collectTimes item n)
    | none => return []

def collect {α : Type} (item : Parser (Option α)) : Parser (List α) := fun s =>
  collectTimes item (s.size - s.offset + 4) s

def itemsUntil (close : Punctuator) (item : Parser Unit) : Parser Unit :=
  repeatWhile do
    if (← atMark close) || (← exhausted) then return false
    item
    return true

def enclosed (opening close : Punctuator) (item : Parser Unit) : Parser Unit := do
  expectMark opening
  itemsUntil close item
  expectMark close

structure ListShape (α : Type) where
  first : Option α
  more : Bool
  trailing : Bool

def commaList {α : Type} (close : Punctuator) (item : Parser α) : Parser (ListShape α) := do
  if (← atMark close) || (← exhausted) then return ⟨none, false, false⟩
  let first ← item
  let rec rounds : Nat → Bool → Parser (ListShape α)
    | 0, more => pure ⟨some first, more, false⟩
    | n + 1, more => do
      if (← atMark close) || (← exhausted) then return ⟨some first, more, false⟩
      require (.punctuator .comma)
      if ← failed then return ⟨some first, more, false⟩
      advance
      if ← atMark close then return ⟨some first, more, true⟩
      let _ ← item
      rounds n true
  let start ← cursor
  rounds (start.size - start.offset + 4) false

def canEnd : Parser Bool := do
  let t ← token
  return t.newlineBefore ||
    match t.kind with
    | .punctuator .semicolon | .punctuator .rCurly | .finish => true
    | _ => false

def endStatement : Parser Unit := do
  if ← canEnd then skipMark .semicolon else failWith .missingSemicolon

end Parser

end DeclSplit
