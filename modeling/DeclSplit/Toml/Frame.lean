import DeclSplit.Text.Bytes
import DeclSplit.Text.Span
import DeclSplit.Text.Basic

/-!
Frames: a report on a stretch of a text, with the line that it begins in and marks below the stretch.
-/

namespace DeclSplit.Toml

structure Position where
  line : Nat
  column : Nat
deriving DecidableEq, Repr

namespace Position

/-- The column that the given byte of a line stands in.  Columns are characters, but for a byte inside a
character, which counts the bytes in front of it. -/
def columnOf (byte : Nat) : (column offset : Nat) → Text → Nat
  | column, _, [] => column
  | column, offset, c :: r =>
    let next := offset + c.utf8Size
    if next ≤ byte then columnOf byte (column + 1) next r
    else if next = byte + 1 then column
    else byte

def inLines (byte : Nat) : (line : Nat) → List Text → Position
  | line, [] => ⟨line, 0⟩
  | line, text :: rest =>
    let length := Text.byteLength text
    -- The end of a line belongs to the line.
    if byte ≤ length || rest.isEmpty then ⟨line, columnOf byte 0 0 (text ++ ['\n'])⟩
    else inLines (byte - length - 1) (line + 1) rest

def ofByte (source : Text) (byte : Nat) : Position :=
  let length := Text.byteLength source
  if length = 0 then ⟨0, byte⟩
  else
    let inside := min byte (length - 1)
    let position := inLines inside 0 (Text.pieces '\n' source)
    ⟨position.line, position.column + (byte - inside)⟩

end Position

def frame (source : Text) (span : Span) (message : Text) : Text :=
  let position := Position.ofByte source span.start
  let line := ((Text.pieces '\n' source)[position.line]?).getD []
  let number := Text.ofNat (position.line + 1)
  let gutter := List.replicate number.length ' '
  let marks := min (span.stop - span.start) (Text.byteLength line - position.column)
  "TOML parse error at line " ++ number ++ ", column " ++ Text.ofNat (position.column + 1) ++ "\n" ++
    gutter ++ " |\n" ++
    number ++ " | " ++ line ++ "\n" ++
    gutter ++ " | " ++ List.replicate position.column ' ' ++ List.replicate (max marks 1) '^' ++ "\n" ++
    message ++ "\n"

def spanAt (source : Text) (byte : Nat) : Span :=
  match Text.dropBytes byte source with
  | c :: _ => ⟨byte, byte + c.utf8Size⟩
  | [] => ⟨byte, byte⟩

end DeclSplit.Toml
