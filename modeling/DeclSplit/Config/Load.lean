import DeclSplit.Config.Section
import DeclSplit.Files.Access
import DeclSplit.Toml.Frame

/-!
The configuration file.
-/

namespace DeclSplit

inductive ConfigError where
  | malformed (source : Text) (fault : Toml.Fault)
  | badValue (source : Text) (fault : ConfigFault) (span : Option Span)
  | unreadable (cause : FileError)

namespace ConfigError

def message : ConfigError → Text
  | malformed source fault => Toml.frame source (Toml.spanAt source fault.offset) fault.message
  | badValue source fault (some span) => Toml.frame source span fault.message
  | badValue _ fault none => fault.message ++ "\n"
  | unreadable cause => cause.message

end ConfigError

namespace Config

def fileName : String := "typesplit.toml"

def parse (source : Text) : Except ConfigError Config :=
  match Toml.Document.parse source with
  | .error fault => .error (.malformed source fault)
  | .ok doc =>
    match ofDocument doc with
    | .error (fault, span) => .error (.badValue source fault span)
    | .ok config => .ok config

variable {m : Type → Type} [Monad m] [FileAccess m]

def load (path : Path) : m (Except ConfigError (Option Config)) := do
  if ← FileAccess.exists_ path then
    match ← FileAccess.readText path with
    | .error cause => return .error (.unreadable cause)
    | .ok source => return (parse source).map some
  else return .ok none

def loadOrDefault : m (Except ConfigError Config) := do
  return (← load fileName).map (·.getD {})

end Config

end DeclSplit
