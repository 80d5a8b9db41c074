import DeclSplit.Split.Event
import DeclSplit.Text.Quoted

/-!
Log messages: what a split tells about its progress, each at a level of importance.
-/

namespace DeclSplit

inductive LogLevel where
  | error | warn | info | debug | trace
deriving DecidableEq, Repr

namespace LogLevel

def rank : LogLevel → Nat
  | error => 1
  | warn => 2
  | info => 3
  | debug => 4
  | trace => 5

def all : List LogLevel := [error, warn, info, debug, trace]

def name : LogLevel → String
  | error => "ERROR"
  | warn => "WARN"
  | info => "INFO"
  | debug => "DEBUG"
  | trace => "TRACE"

def column (level : LogLevel) : Text :=
  let name : Text := level.name
  List.replicate (5 - name.length) ' ' ++ name

end LogLevel

structure LogMessage where
  level : LogLevel
  text : Text
  fields : List (Text × Text)
deriving DecidableEq, Repr

namespace LogMessage

def source : String := "typesplit::observer"

def visible (c : Char) : Text :=
  if c = '\x1b' || c = '\x07' || c = '\x08' || c = '\x0c' || c = '\x7f' then
    (if c.toNat < 0x10 then "\\x0" else "\\x") ++ Text.hexadecimal c.toNat
  else if 0x80 ≤ c.toNat && c.toNat ≤ 0x9F then "\\u\x7b" ++ Text.hexadecimal c.toNat ++ "\x7d"
  else [c]

def line (message : LogMessage) (time : Text) : Text :=
  Text.join " " (
    [time, message.level.column, source ++ ":", message.text.flatMap visible] ++
      message.fields.map fun (name, value) => name ++ "=" ++ value)

end LogMessage

def SplitEvent.logMessage : SplitEvent → LogMessage
  | diagnostic path fault => ⟨.warn, fault.message, [("path", path.text)]⟩
  | found count => ⟨.debug, "declarations found", [("count", Text.ofNat count)]⟩
  | directory dir true => ⟨.info, "created output directory", [("dir", dir.text)]⟩
  | directory dir false => ⟨.debug, "output directory exists", [("dir", dir.text)]⟩
  | wrote declaration path imports =>
    ⟨.debug, "wrote declaration", [
      ("name", declaration.name), ("kind", declaration.kind.word), ("imports", Text.ofNat imports),
      ("path", path.text)]⟩

end DeclSplit
