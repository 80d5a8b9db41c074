import DeclSplit.Toml.Reader

/-!
Blanks, comments and the ends of lines.
-/

namespace DeclSplit.Toml.Reader

def isBlank (c : Char) : Bool := c = ' ' || c = '\t'

def blanks : Reader Unit := do let _ ← all isBlank

def isInLine (c : Char) : Bool := c = '\t' || (32 ≤ c.val && c.val ≠ 127)

def comment : Reader Unit := do
  let _ ← char '#'
  let _ ← all isInLine

def newline : Reader Unit :=
  orElse (do let _ ← char '\n') (do let _ ← char '\r'; let _ ← char '\n')

def finish : Reader Unit := do
  if (← peek?).isSome then refuse

def lineEnd : Reader Unit := orElse newline finish

def restOfLine : Reader Unit := do
  blanks
  let _ ← optional comment
  lineEnd

def newlines : Reader Unit := do
  newline
  let _ ← many (orElse newline (do let _ ← some_ isBlank))

def gap : Reader Unit := fun p =>
  let rec rounds : Nat → Reader Unit
    | 0 => blanks
    | n + 1 => do
      blanks
      match ← peek? with
      | some '#' => do comment; newline; rounds n
      | some '\n' | some '\r' => do newline; rounds n
      | _ => pure ()
  rounds p.rest.length p

end DeclSplit.Toml.Reader
