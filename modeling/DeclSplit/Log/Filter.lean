import DeclSplit.Log.Message
import DeclSplit.Unicode.Alphanumeric
import DeclSplit.Unicode.WhiteSpace

/-!
Log filters: directives that say down to which level the messages of a part of the program are shown.  The
directive for the narrowest part decides, the last of several for the same part.
-/

namespace DeclSplit

inductive LogThreshold where
  | off
  | downTo (level : LogLevel)
deriving DecidableEq, Repr

namespace LogThreshold

def shows : LogThreshold → LogLevel → Bool
  | off, _ => false
  | downTo lowest, level => level.rank ≤ lowest.rank

def ofNumber? : Nat → Option LogThreshold
  | 0 => some off
  | n + 1 => LogLevel.all[n]?.map downTo

def number? (text : Text) : Option Nat :=
  let digits := if text.head? = some '+' then text.tail else text
  if digits.isEmpty || !digits.all Char.isDigit then none else
    some (digits.foldl (fun n c => 10 * n + (c.toNat - '0'.toNat)) 0)

def ofText? (text : Text) : Option LogThreshold :=
  match number? text with
  | some n => ofNumber? n
  | none =>
    let capitals := text.map Char.toUpper
    if capitals = "OFF" then some off
    else (LogLevel.all.find? fun level => capitals = level.name).map downTo

end LogThreshold

structure LogDirective where
  part : Text
  threshold : LogThreshold
deriving DecidableEq, Repr

namespace LogDirective

def mayBegin (c : Char) : Bool := c = '-' || c = ':' || c = '_' || Unicode.isAlphanumeric c

def thresholdBehind (text : Text) : Option LogThreshold :=
  if text.isEmpty then some (.downTo .trace) else LogThreshold.ofText? text

def readSpan (text : Text) : Option (List LogDirective) :=
  let behind := (text.reverse.takeWhile (· ≠ ']')).reverse
  if !text.contains ']' then none else
  match behind with
  | [] => some []
  | '=' :: level => (thresholdBehind level).map fun _ => []
  | _ => none

/-- Reads a directive: a level, a part of the program, or a part and a level with an equals sign between them.
White space in front belongs to the part, and no level may follow then. -/
def read (text : Text) : Option (List LogDirective) :=
  match text.dropWhile Unicode.isWhiteSpace with
  | [] => none
  | '[' :: r => readSpan r
  | c :: _ =>
    if !mayBegin c then none else
    let part := text.takeWhile fun c => c ≠ '=' && c ≠ '['
    match text.drop part.length with
    | [] => some [match LogThreshold.ofText? text with
      | some threshold => ⟨[], threshold⟩
      | none => ⟨text, .downTo .trace⟩]
    | '[' :: r => readSpan r
    | _ :: level =>
      if part.head?.any Unicode.isWhiteSpace then none else
        (thresholdBehind level).map fun threshold => [⟨part, threshold⟩]

end LogDirective

abbrev LogFilter := List LogDirective

namespace LogFilter

def standard : LogFilter := [⟨[], .downTo .warn⟩]

def verbose : LogFilter := [⟨[], .downTo .debug⟩]

def read (text : Text) : Option LogFilter :=
  (((Text.pieces ',' text).filter (!·.isEmpty)).mapM LogDirective.read).map List.flatten

def ofSetting (setting : Option Text) : LogFilter := (setting.bind read).getD standard

def narrower (one other : LogDirective) : LogDirective :=
  if other.part.length < one.part.length then one else other

def deciding? (filter : LogFilter) (part : Text) : Option LogDirective :=
  (filter.filter (·.part.isPrefixOf part)).foldl (fun best d => some ((best.map (narrower · d)).getD d)) none

def shows (filter : LogFilter) (message : LogMessage) : Bool :=
  (filter.deciding? LogMessage.source).any (·.threshold.shows message.level)

def lines (filter : LogFilter) (time : Text) (events : List SplitEvent) : List Text :=
  ((events.map (·.logMessage)).filter filter.shows).map (·.line time)

end LogFilter

end DeclSplit
