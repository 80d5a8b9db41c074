import DeclSplit.Text.Bytes
import DeclSplit.Text.Basic
import DeclSplit.Text.Span
import DeclSplit.Toml.Fault

/-!
Readers go through a configuration text.  One that does not find what it looks for refuses, and another may be
tried from the same place; one that has found enough to be certain breaks off for good.
-/

namespace DeclSplit.Toml

structure Place where
  rest : Text
  offset : Nat

inductive Reply (α : Type) where
  | done (value : α) (next : Place)
  | refused (fault : Fault)
  | broken (fault : Fault)

def Reader (α : Type) := Place → Reply α

namespace Reader

variable {α β : Type}

instance : Monad Reader where
  pure value := fun p => .done value p
  bind r next := fun p =>
    match r p with
    | .done value q => next value q
    | .refused f => .refused f
    | .broken f => .broken f

def refuse : Reader α := fun p => .refused (Fault.at_ p.offset)

def place : Reader Place := fun p => .done p p

def peek? : Reader (Option Char) := fun p => .done p.rest.head? p

def one (isMember : Char → Bool) : Reader Char := fun p =>
  match p.rest with
  | c :: r => if isMember c then .done c ⟨r, p.offset + c.utf8Size⟩ else .refused (Fault.at_ p.offset)
  | [] => .refused (Fault.at_ p.offset)

def char (c : Char) : Reader Char := one (· = c)

def exactly (text : Text) : Reader Unit := fun p =>
  if text.isPrefixOf p.rest then .done () ⟨p.rest.drop text.length, p.offset + Text.byteLength text⟩
  else .refused (Fault.at_ p.offset)

def times (count : Nat) (isMember : Char → Bool) : Reader Text := fun p =>
  let taken := (p.rest.take count).takeWhile isMember
  if taken.length = count then .done taken ⟨p.rest.drop count, p.offset + Text.byteLength taken⟩
  else .refused (Fault.at_ p.offset)

def all (isMember : Char → Bool) : Reader Text := fun p =>
  let taken := p.rest.takeWhile isMember
  .done taken ⟨p.rest.drop taken.length, p.offset + Text.byteLength taken⟩

def some_ (isMember : Char → Bool) : Reader Text := do
  let first ← one isMember
  return first :: (← all isMember)

def orElse (r other : Reader α) : Reader α := fun p =>
  match r p with
  | .refused _ => other p
  | reply => reply

def optional (r : Reader α) : Reader (Option α) := orElse (do return some (← r)) (pure none)

def ahead (r : Reader α) : Reader α := fun p =>
  match r p with
  | .done value _ => .done value p
  | reply => reply

def commit (r : Reader α) : Reader α := fun p =>
  match r p with
  | .refused f => .broken f
  | reply => reply

def explain (change : Fault → Fault) (r : Reader α) : Reader α := fun p =>
  match r p with
  | .refused f => .refused (change f)
  | .broken f => .broken (change f)
  | reply => reply

def within (construct : Construct) : Reader α → Reader α :=
  explain fun f => { f with construct := f.construct.or (some construct) }

def wanting (wanted : Wanted) : Reader α → Reader α :=
  explain fun f => { f with wanted := f.wanted ++ [wanted] }

def restrict (r : Reader α) (check : α → Except Cause β) : Reader β := fun p =>
  match r p with
  | .done value next =>
    match check value with
    | .ok result => .done result next
    | .error cause => .refused { Fault.at_ p.offset with cause := some cause }
  | .refused f => .refused f
  | .broken f => .broken f

def many (r : Reader α) : Reader (List α) := fun p =>
  let rec rounds : Nat → Reader (List α)
    | 0 => pure []
    | n + 1 => do
      match ← optional r with
      | none => return []
      | some first => return first :: (← rounds n)
  rounds (p.rest.length + 1) p

def separated (r : Reader α) (separator : Reader β) : Reader (List α) := do
  let first ← r
  return first :: (← many do let _ ← separator; r)

def located (r : Reader α) : Reader (α × Span) := do
  let start ← place
  let value ← r
  let stop ← place
  return (value, ⟨start.offset, stop.offset⟩)

end Reader

end DeclSplit.Toml
