import DeclSplit.Toml.Value

/-!
Documents: lines that assign values to keys, under headers that open tables.
-/

namespace DeclSplit.Toml

structure Document where
  entries : Entries
  section_ : List Text
deriving Repr

namespace Document

def empty : Document := ⟨[], []⟩

def assign (doc : Document) (way : List Key) (key : Key) (item : Item) : Except Cause Document := do
  let stop := (item.span?.map Span.stop).getD 0
  let entries ← doc.entries.inSection stop
    (Entries.assign .dotted (some doc.section_) .declared way key item) doc.section_
  return { doc with entries }

def openTable (doc : Document) (way : List Key) (key : Key) (span : Span) : Except Cause Document := do
  return ⟨← doc.entries.openTable way key span, (way ++ [key]).map Key.name⟩

def openElement (doc : Document) (way : List Key) (key : Key) (span : Span) : Except Cause Document := do
  return ⟨← doc.entries.openElement way key span, (way ++ [key]).map Key.name⟩

end Document

namespace Reader

def lineOver : Reader Unit := wanting (.char '#') (wanting .newline restOfLine)

def assignment (doc : Document) : Reader Document :=
  restrict
    (do
      let name ← key
      commit do
        equals
        blanks
        let item ← value (deepest - 1)
        lineOver
        return (name, item))
    fun ((way, key), item) => doc.assign way key item

def bracketed (opening closing : String) : Reader ((List Key × Key) × Span) := do
  let header ← located do
    exactly opening
    let name ← commit key
    commit (wanting (.mark closing) (wanting (.char '.') (exactly closing)))
    return name
  commit lineOver
  return header

def header (doc : Document) : Reader Document := within .tableHeader do
  match (← place).rest with
  | '[' :: '[' :: _ =>
    restrict (bracketed "[[" "]]") fun ((way, key), span) => doc.openElement way key span
  | _ :: _ :: _ =>
    restrict (bracketed "[" "]") fun ((way, key), span) => doc.openTable way key span
  | _ => refuse

def lines : Nat → Document → Reader Document
  | 0, doc => return doc
  | fuel + 1, doc => do
    let doc' ← match ← peek? with
      | none => return doc
      | some '#' => commit do comment; lineEnd; pure doc
      | some '[' => commit (header doc)
      | some '\n' | some '\r' => do orElse newline refuse; pure doc
      | some _ => commit (assignment doc)
    blanks
    lines fuel doc'

def document : Reader Document := fun p =>
  let read : Reader Document := do
    let _ ← optional (char '\ufeff')
    blanks
    lines (p.rest.length + 1) Document.empty
  read p

end Reader

namespace Document

def parse (source : Text) : Except Fault Document :=
  match Reader.document ⟨source, 0⟩ with
  | .done doc _ => .ok doc
  | .refused fault | .broken fault => .error fault

end Document

end DeclSplit.Toml
