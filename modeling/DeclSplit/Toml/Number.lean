import DeclSplit.Decimal.Binary64
import DeclSplit.Toml.Quoted

/-!
Numbers: integers of 64 bits, in four bases, and numbers of double precision.
-/

namespace DeclSplit.Toml

inductive Float64 where
  | finite (negative : Bool) (magnitude : Binary64)
  | infinite (negative : Bool)
  | notANumber
deriving DecidableEq, Repr

namespace Reader

def moreDigits (isMember : Char → Bool) : Reader Text :=
  many (orElse (one isMember) (do let _ ← char '_'; commit (wanting .digit (one isMember))))

def digits (isMember : Char → Bool) : Reader Text := do
  let first ← one isMember
  return first :: (← moreDigits isMember)

def sign : Reader Bool := do return (← optional (one fun c => c = '+' || c = '-')) = some '-'

def decimal : Reader (Bool × Text) := within .integer do
  let negative ← sign
  let whole ← orElse
    (do
      let first ← one fun c => '1' ≤ c && c ≤ '9'
      return first :: (← moreDigits isDigit))
    (do return [← one isDigit])
  return (negative, whole)

def integerLimit : Nat := Nat.pow 2 63

def bounded (negative : Bool) (magnitude : Nat) : Except Cause Int :=
  if negative then if magnitude ≤ integerLimit then .ok (-magnitude) else .error .tooSmall
  else if magnitude < integerLimit then .ok magnitude else .error .tooLarge

def based (mark : Text) (base : Nat) (isMember : Char → Bool) (construct : Construct) : Reader Int :=
  commit <| restrict
    (within construct do exactly mark; commit (digits isMember))
    fun ds => bounded false (valueOf base ds)

def integer : Reader Int := do
  match (← place).rest with
  | '0' :: 'x' :: _ => based "0x" 16 isHexDigit .hexadecimal
  | '0' :: 'o' :: _ => based "0o" 8 (fun c => '0' ≤ c && c ≤ '7') .octal
  | '0' :: 'b' :: _ => based "0b" 2 (fun c => c = '0' || c = '1') .binary
  | _ => fun p =>
    match restrict decimal (fun (negative, ds) => bounded negative (valueOf 10 ds)) p with
    | .refused f => if f.cause.isSome then .broken f else .refused f
    | reply => reply

def power : Reader Int := do
  let _ ← one fun c => c = 'e' || c = 'E'
  let negative ← sign
  let n := valueOf 10 (← commit (digits isDigit))
  return if negative then -(n : Int) else n

def decimals : Reader Text := do
  let _ ← char '.'
  commit (wanting .digit (digits isDigit))

def decimalFloat : Reader Float64 := fun p =>
  let read : Reader (Bool × Text × Text × Int) := do
    let (negative, whole) ← decimal
    orElse (do return (negative, whole, [], ← power))
      (do
        let places ← decimals
        return (negative, whole, places, (← optional power).getD 0))
  match read p with
  | .done (negative, whole, places, exponent) next =>
    match Binary64.ofDecimal? (valueOf 10 (whole ++ places)) (exponent - places.length) with
    | some magnitude => .done (.finite negative magnitude) next
    -- Beyond the least number is minus infinity; nothing is read beyond the greatest.
    | none => if negative then .done (.infinite true) next else .broken (Fault.at_ p.offset)
  | .refused f => .refused f
  | .broken f => .broken f

def infinity : Reader Float64 := do
  exactly "inf"
  return .infinite false

def notANumber : Reader Float64 := do
  exactly "nan"
  return .notANumber

def specialFloat : Reader Float64 := do
  let negative ← sign
  match ← orElse infinity notANumber with
  | .infinite _ => return .infinite negative
  | other => return other

def float : Reader Float64 := within .float (orElse decimalFloat specialFloat)

end Reader

end DeclSplit.Toml
