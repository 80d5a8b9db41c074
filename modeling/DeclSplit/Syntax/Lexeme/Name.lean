import DeclSplit.Syntax.Diagnostic
import DeclSplit.Unicode.IdentifierClass

/-!
Names.  A name is a start character and parts, any of which may be written as a Unicode escape; a bad
escape is reported and contributes nothing to the name, which goes on after it.  A name is read to its end
(`Spelling.endsName_read`), and all that it names are parts (`Spelling.isNamePart_of_mem_read`).
-/

namespace DeclSplit

def isNameStart (c : Char) : Bool := c == '$' || c == '_' || Unicode.isIdStart c

def isNamePart (c : Char) : Bool :=
  c == '$' || Unicode.isIdContinue c || c == '\u200c' || c == '\u200d'

theorem isNamePart_of_isNameStart {c : Char} (h : isNameStart c = true) : isNamePart c = true := by
  simp only [isNameStart, Unicode.isIdStart, Bool.or_eq_true, beq_iff_eq] at h
  simp only [isNamePart, Unicode.isIdContinue, Bool.or_eq_true, beq_iff_eq]
  rcases h with (rfl | rfl) | h
  · simp
  · simp
  · split at h <;> simp_all [Char.isAlphanum]

def endsName : List Char → Bool
  | [] => true
  | c :: _ => c != '\\' && !isNamePart c

def opensName (c : Char) : Bool := c == '\\' || isNameStart c

theorem endsName_cons_of_opensName {c : Char} (h : opensName c = true) (r : List Char) :
    endsName (c :: r) = false := by
  simp only [opensName, Bool.or_eq_true, beq_iff_eq] at h
  rcases h with rfl | h
  · rfl
  · simp [endsName, isNamePart_of_isNameStart h]

def hexValue (c : Char) : Option Nat :=
  if '0' ≤ c && c ≤ '9' then some (c.toNat - '0'.toNat)
  else if 'a' ≤ c && c ≤ 'f' then some (c.toNat - 'a'.toNat + 10)
  else if 'A' ≤ c && c ≤ 'F' then some (c.toNat - 'A'.toNat + 10)
  else none

def hexDigits : (count : Nat) → (value : Nat) → List Char → Option Nat × Nat
  | 0, value, _ => (some value, 0)
  | _ + 1, _, [] => (none, 0)
  | count + 1, value, c :: r =>
    match hexValue c with
    | none => (none, 0)
    | some digit =>
      let (result, read) := hexDigits count (value * 16 + digit) r
      (result, read + 1)

def bracedDigits (started : Bool) (value : Nat) : List Char → Option Nat × Nat
  | [] => (none, 0)
  | c :: r =>
    match hexValue c with
    | none => if started && c == '\x7d' then (some value, 1) else (none, 0)
    | some digit =>
      let next := value * 16 + digit
      if next > 0x10ffff then (none, 1)
      else
        let (result, read) := bracedDigits true next r
        (result, read + 1)

/-- A Unicode escape after its `\u`: how many characters it takes, whether it is well formed, and the
character it stands for, which half a surrogate pair or two halves in two escapes do not have. -/
structure UnicodeEscape where
  length : Nat
  wellFormed : Bool
  char : Option Char
deriving DecidableEq, Repr

def scalar? (value : Nat) : Option Char :=
  if h : value.isValidChar then some (Char.ofNatAux value h) else none

namespace UnicodeEscape

def ofDigits (result : Option Nat) (length : Nat) : UnicodeEscape :=
  ⟨length, result.isSome, result.bind scalar?⟩

def read : List Char → UnicodeEscape
  | '\x7b' :: r =>
    let (result, length) := bracedDigits false 0 r
    ofDigits result (length + 1)
  | cs =>
    match hexDigits 4 0 cs with
    | (none, length) => ofDigits none length
    | (some high, length) =>
      if 0xd800 ≤ high && high ≤ 0xdbff then
        match cs.drop length with
        | '\\' :: 'u' :: r =>
          let (low, more) := hexDigits 4 0 r
          ⟨length + 2 + more, low.isSome, none⟩
        | _ => ⟨length, true, none⟩
      else ofDigits (some high) length

end UnicodeEscape

structure Spelling where
  length : Nat
  chars : List Char
  faults : List Diagnostic
deriving DecidableEq, Repr

namespace Spelling

def ofEscape (atStart : Bool) : List Char → Spelling
  | 'u' :: r =>
    let escape := UnicodeEscape.read r
    match escape.char with
    | none => ⟨escape.length + 1, [], [.badNameEscape]⟩
    | some c =>
      if if atStart then isNameStart c else isNamePart c then ⟨escape.length + 1, [c], []⟩
      else ⟨escape.length + 1, [], [.invalidCharacter c]⟩
  | _ :: _ => ⟨1, [], [.badNameEscape]⟩
  | [] => ⟨0, [], [.badNameEscape]⟩

def append (s t : Spelling) : Spelling :=
  ⟨s.length + t.length, s.chars ++ t.chars, s.faults ++ t.faults⟩

def read : (fuel : Nat) → (atStart : Bool) → List Char → Spelling
  | 0, _, _ => ⟨0, [], []⟩
  | fuel + 1, atStart, '\\' :: r =>
    let escape := ofEscape atStart r
    append ⟨1, [], []⟩ (append escape (read fuel false (r.drop escape.length)))
  | fuel + 1, atStart, c :: r =>
    if if atStart then isNameStart c else isNamePart c then
      append ⟨1, [c], []⟩ (read fuel false r)
    else ⟨0, [], []⟩
  | _ + 1, _, [] => ⟨0, [], []⟩

theorem isNamePart_of_allowed {atStart : Bool} {c : Char}
    (h : (if atStart then isNameStart c else isNamePart c) = true) : isNamePart c = true := by
  cases atStart with
  | true => exact isNamePart_of_isNameStart h
  | false => exact h

theorem isNamePart_of_mem_ofEscape {atStart : Bool} {text : List Char} {c : Char} :
    c ∈ (ofEscape atStart text).chars → isNamePart c = true := by
  fun_cases ofEscape atStart text with
  | case2 r escape found _ allowed =>
    intro h
    rw [List.mem_singleton.mp h]
    exact isNamePart_of_allowed allowed
  | _ => simp

theorem isNamePart_of_mem_read {fuel : Nat} {atStart : Bool} {text : List Char} {c : Char} :
    c ∈ (read fuel atStart text).chars → isNamePart c = true := by
  fun_induction read fuel atStart text with
  | case2 fuel atStart r escape ih =>
    intro h
    simp only [append, List.nil_append, List.mem_append] at h
    exact h.elim isNamePart_of_mem_ofEscape ih
  | case3 fuel atStart first r _ allowed ih =>
    intro h
    simp only [append, List.singleton_append, List.mem_cons] at h
    rcases h with rfl | h
    · exact isNamePart_of_allowed allowed
    · exact ih h
  | _ => simp

theorem endsName_read {fuel : Nat} {atStart : Bool} {text : List Char} (enough : text.length < fuel)
    (opens : atStart = true → text.head?.any opensName = true) :
    endsName (text.drop (read fuel atStart text).length) = true := by
  fun_induction read fuel atStart text with
  | case1 => omega
  | case2 fuel atStart r escape ih =>
    have rest := ih (by simp at enough ⊢; omega) (by simp)
    simpa [append, Nat.add_comm 1, List.drop_drop, Nat.add_comm escape.length] using rest
  | case3 fuel atStart first r _ _ ih =>
    have rest := ih (by simp at enough; omega) (by simp)
    simpa [append, Nat.add_comm 1] using rest
  | case4 fuel atStart first r plain refused =>
    cases atStart <;> simp_all [endsName, opensName]
  | case5 => rfl

end Spelling

end DeclSplit
