import DeclSplit.Syntax.Lexeme.Blank
import DeclSplit.Syntax.Lexeme.Numeral
import DeclSplit.Syntax.Lexeme.Text
import DeclSplit.Syntax.Token

/-!
Scanners: functions that read one piece off the front of a text.  `Lexeme.read` is the scanner used where
nothing else is known; the grammar asks for another one where the same characters mean something else,
inside markup, behind the hole of a template, or where a regular expression may stand.  Whichever is used, a
keyword is read to the end of the word.
-/

namespace DeclSplit

structure Lexeme where
  kind : TokenKind
  length : Nat
  decoded : Option (List Char)
  faults : List Diagnostic
deriving DecidableEq, Repr

structure Scanner where
  scan : List Char → Lexeme
  word_ends : ∀ text word, (scan text).kind = .keyword word →
    endsName (text.drop (scan text).length) = true

instance : CoeFun Scanner fun _ => List Char → Lexeme := ⟨Scanner.scan⟩

namespace Lexeme

def plain (kind : TokenKind) (length : Nat) : Lexeme := ⟨kind, length, none, []⟩

def broken (length : Nat) (faults : List Diagnostic) : Lexeme := ⟨.unreadable, length, none, faults⟩

def finish : Lexeme := plain .finish 0

def wordKind (chars : List Char) : TokenKind :=
  match Keyword.ofSpelling? (String.ofList chars) with
  | some word => .keyword word
  | none => .name

def ofWord (text : List Char) : Lexeme :=
  let run := text.takeWhile isNamePart
  match text.drop run.length with
  | '\\' :: _ =>
    let spelling := Spelling.read (text.length + 1) true text
    ⟨wordKind spelling.chars, spelling.length, some spelling.chars, spelling.faults⟩
  | _ => plain (wordKind run) run.length

def ofPrivateName (rest : List Char) : Lexeme :=
  match rest with
  | [] => broken 1 [.unexpectedEnd]
  | c :: _ =>
    if c == '\\' || isNameStart c then
      let spelling := Spelling.read (rest.length + 1) true rest
      ⟨.privateName, spelling.length + 1, none, spelling.faults⟩
    else broken 2 [.invalidCharacter c]

def ofNumeral (text : List Char) : Lexeme :=
  let scan := NumeralScan.read text
  ⟨if scan.usable then .numeral scan.decimal else .unreadable, scan.length, none, scan.faults⟩

def ofString (quote : Char) (rest : List Char) : Lexeme :=
  let scan := TextScan.string quote 0 1 [] rest
  if scan.closed then ⟨.text, scan.length, none, scan.faults⟩
  else broken scan.length (scan.faults ++ [.unterminatedText])

def ofTemplate (closed hole : TemplatePiece) (rest : List Char) : Lexeme :=
  match templateBody 1 rest with
  | (length, .closed) => plain (.template closed) length
  | (length, .hole) => plain (.template hole) length
  | (length, .missing) => broken length [.unterminatedText]

def ofPunctuator (text : List Char) : Option Lexeme :=
  match text with
  | '?' :: '.' :: c :: _ =>
    if c.isDigit then some (plain (.punctuator .question) 1)
    else some (plain (.punctuator .questionDot) 2)
  | '>' :: _ => some (plain (.punctuator .rAngle) 1)
  | _ => (Punctuator.longestAt Punctuator.plainForms text).map fun (mark, length) =>
    plain (.punctuator mark) length

def front : List Char → Lexeme
  | [] => finish
  | '`' :: r => ofTemplate .whole .head r
  | '#' :: r => ofPrivateName r
  | '.' :: c :: r =>
    if c.isDigit then ofNumeral ('.' :: c :: r)
    else (ofPunctuator ('.' :: c :: r)).getD (broken 1 [.invalidCharacter '.'])
  | c :: r =>
    if opensName c then ofWord (c :: r)
    else if c.isDigit then ofNumeral (c :: r)
    else if c == '"' || c == '\'' then ofString c r
    else (ofPunctuator (c :: r)).getD (broken 1 [.invalidCharacter c])

@[simp] theorem isWord_finish : finish.kind.isWord = false := rfl

@[simp] theorem isWord_ofTemplate (closed hole : TemplatePiece) (rest : List Char) :
    (ofTemplate closed hole rest).kind.isWord = false := by
  unfold ofTemplate
  split <;> rfl

@[simp] theorem isWord_ofPrivateName (rest : List Char) : (ofPrivateName rest).kind.isWord = false := by
  unfold ofPrivateName
  split
  · rfl
  · split <;> rfl

@[simp] theorem isWord_ofNumeral (text : List Char) : (ofNumeral text).kind.isWord = false := by
  simp only [ofNumeral]
  split <;> rfl

@[simp] theorem isWord_ofString (quote : Char) (rest : List Char) :
    (ofString quote rest).kind.isWord = false := by
  simp only [ofString]
  split <;> rfl

@[simp] theorem isWord_getD_ofPunctuator (text : List Char) (faults : List Diagnostic) :
    ((ofPunctuator text).getD (broken 1 faults)).kind.isWord = false := by
  unfold ofPunctuator
  split
  · split <;> rfl
  · rfl
  · cases Punctuator.longestAt Punctuator.plainForms text <;> rfl

theorem front_of_isWord {text : List Char} (h : (front text).kind.isWord = true) :
    ∃ c r, text = c :: r ∧ opensName c = true ∧ front text = ofWord text := by
  revert h
  fun_cases front text with
  | case6 c r _ _ _ opens => exact fun _ => ⟨c, r, rfl, opens, rfl⟩
  | _ => simp only [isWord_finish, isWord_ofTemplate, isWord_ofPrivateName, isWord_ofNumeral,
      isWord_ofString, isWord_getD_ofPunctuator, Bool.false_eq_true, false_implies]

theorem endsName_drop_takeWhile {text : List Char}
    (plainly : ∀ r, text.drop (text.takeWhile isNamePart).length ≠ '\\' :: r) :
    endsName (text.drop (text.takeWhile isNamePart).length) = true := by
  induction text with
  | nil => rfl
  | cons c r ih =>
    by_cases h : isNamePart c = true
    · simp only [List.takeWhile_cons_of_pos h, List.length_cons, List.drop_succ_cons] at plainly ⊢
      exact ih plainly
    · simp only [List.takeWhile_cons_of_neg h, List.length_nil, List.drop_zero] at plainly ⊢
      simp [endsName, h]
      rintro rfl
      exact plainly r rfl

theorem endsName_drop_ofWord {text : List Char} (opens : text.head?.any opensName = true) :
    endsName (text.drop (ofWord text).length) = true := by
  simp only [ofWord]
  split
  · exact Spelling.endsName_read (Nat.lt_succ_self _) fun _ => opens
  · rename_i plainly
    exact endsName_drop_takeWhile plainly

def read : Scanner where
  scan := front
  word_ends text word h := by
    obtain ⟨c, r, rfl, opens, eq⟩ := front_of_isWord (by rw [h]; rfl)
    rw [eq]
    exact endsName_drop_ofWord opens

def except (scan : List Char → Lexeme)
    (h : ∀ text, (scan text).kind.isWord = false ∨ scan text = front text) : Scanner where
  scan := scan
  word_ends text word hw := by
    rcases h text with no | eq
    · simp [hw, TokenKind.isWord] at no
    · rw [eq] at hw ⊢
      exact read.word_ends text word hw

def readAngle : Scanner :=
  except
    (fun text =>
      match Punctuator.longestAt Punctuator.angleForms text with
      | some (mark, length) => plain (.punctuator mark) length
      | none => front text)
    (by
      intro text
      split
      · exact .inl rfl
      · exact .inr rfl)

def readOpenAngle : Scanner :=
  except
    (fun
      | '<' :: _ => plain (.punctuator .lAngle) 1
      | text => front text)
    (by
      intro text
      split
      · exact .inl rfl
      · exact .inr rfl)

def readTemplateRest : Scanner :=
  except
    (fun
      | '\x7d' :: r => ofTemplate .tail .middle r
      | text => front text)
    (by
      intro text
      split
      · exact .inl (isWord_ofTemplate ..)
      · exact .inr rfl)

def ofPattern (r : List Char) : Lexeme :=
  let scan := TextScan.pattern false 1 r
  if scan.closed then
    let flags := (r.drop (scan.length - 1)).takeWhile isNamePart
    plain .pattern (scan.length + flags.length)
  else broken scan.length [.unterminatedPattern]

@[simp] theorem isWord_ofPattern (r : List Char) : (ofPattern r).kind.isWord = false := by
  simp only [ofPattern]
  split <;> rfl

def readPattern : Scanner :=
  except
    (fun
      | '/' :: r => ofPattern r
      | text => front text)
    (by
      intro text
      split
      · exact .inl (isWord_ofPattern _)
      · exact .inr rfl)

def readMarkupChild : Scanner :=
  except
    (fun
      | [] => finish
      | '<' :: _ => plain (.punctuator .lAngle) 1
      | '\x7b' :: _ => plain (.punctuator .lCurly) 1
      | text => plain .markupText (text.takeWhile fun c => c != '<' && c != '\x7b').length)
    (by
      intro text
      split <;> exact .inl rfl)

def readMarkupName : Scanner where
  scan text := plain .name (text.takeWhile fun c => c == '-' || isNamePart c).length
  word_ends _ _ h := nomatch h

def ofMarkupValue (quote : Char) (r : List Char) : Lexeme :=
  let body := r.takeWhile (· != quote)
  if body.length < r.length then plain .text (body.length + 2)
  else broken (body.length + 1) [.unterminatedText]

@[simp] theorem isWord_ofMarkupValue (quote : Char) (r : List Char) :
    (ofMarkupValue quote r).kind.isWord = false := by
  simp only [ofMarkupValue]
  split <;> rfl

def readMarkupValue : Scanner :=
  except
    (fun
      | [] => finish
      | c :: r => if c == '"' || c == '\'' then ofMarkupValue c r else front (c :: r))
    (by
      intro text
      split
      · exact .inl rfl
      · split
        · exact .inl (isWord_ofMarkupValue ..)
        · exact .inr rfl)

def readUnclosed : Scanner :=
  except (fun text => broken text.length [.unterminatedComment]) fun _ => .inl rfl

end Lexeme

end DeclSplit
