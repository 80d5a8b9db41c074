import DeclSplit.Toml.Quoted

/-!
Dates and times.  Nothing depends on which moment they name, so only their form and ranges are checked.
-/

namespace DeclSplit.Toml.Reader

def numberOf (count : Nat) : Reader Nat := do return valueOf 10 (← times count isDigit)

def twoDigits (least most : Nat) : Reader Nat :=
  restrict (numberOf 2) fun n => if least ≤ n && n ≤ most then .ok n else .error .outOfRange

def isLeap (year : Nat) : Bool := year % 4 = 0 && (year % 100 ≠ 0 || year % 400 = 0)

def daysIn (year month : Nat) : Nat :=
  if month = 2 then if isLeap year then 29 else 28
  else if [4, 6, 9, 11].contains month then 30
  else 31

def date : Reader Unit := do
  let year ← numberOf 4
  let _ ← char '-'
  commit do
    let month ← twoDigits 1 12
    let _ ← char '-'
    let _ ← restrict (twoDigits 1 31) fun day =>
      if day ≤ daysIn year month then .ok day else .error .outOfRange

def fractionOfSecond : Reader Unit := do
  let _ ← char '.'
  let _ ← some_ isDigit

def time : Reader Unit := do
  let _ ← twoDigits 0 23
  let _ ← char ':'
  commit do
    let _ ← twoDigits 0 59
    let _ ← char ':'
    let _ ← twoDigits 0 60
    let _ ← optional fractionOfSecond

def timeOffset : Reader Unit := within .timeOffset <|
  orElse (do let _ ← one fun c => c = 'Z' || c = 'z') do
    let _ ← one fun c => c = '+' || c = '-'
    commit do
      let _ ← twoDigits 0 23
      let _ ← char ':'
      let _ ← twoDigits 0 59

def moment : Reader Unit :=
  orElse
    (within .dateTime do
      date
      let _ ← optional do
        let _ ← one fun c => c = 'T' || c = 't' || c = ' '
        time
        let _ ← optional timeOffset)
    (within .time time)

end DeclSplit.Toml.Reader
