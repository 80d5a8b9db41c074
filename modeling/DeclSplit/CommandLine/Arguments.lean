import DeclSplit.CommandLine.UsageError
import DeclSplit.Path.Basic

/-!
Reading a command line.  Arguments are taken in order, and the first that is wrong decides about the error; a
value is looked at when the argument behind it is taken.
-/

namespace DeclSplit.CommandLine

inductive Command where
  | create (input : Path) (output : Option Path) (overwrite : Bool) (mode : Option MatchMode) (json : Bool)
  | list (input : Path) (json : Bool)
deriving DecidableEq, Repr

structure Invocation where
  debug : Bool
  command : Command
deriving DecidableEq, Repr

inductive Request where
  | run (invocation : Invocation)
  | help (scope : Scope)
  | version
deriving DecidableEq, Repr

inductive Stop where
  | fault (error : UsageError)
  | answer (request : Request)

inductive Form where
  | separator
  | long (name : OsText) (value : Option OsText)
  | letters (letters : OsText)
  | word

def Form.ofArgument : OsText → Form
  | [.char '-', .char '-'] => separator
  | .char '-' :: .char '-' :: r =>
    let name := r.takeWhile (· ≠ .char '=')
    long name ((r.drop name.length).tail?)
  | .char '-' :: c :: r => letters (c :: r)
  | _ => word

structure Reading where
  used : List Parameter := []
  pending : Option (Parameter × Option OsText) := none
  input : OsText := []
  output : Option OsText := none
  mode : Option MatchMode := none

namespace Reading

def fault {α : Type} (e : UsageError) : Except Stop α := .error (.fault e)

def accept (scope : Scope) (p : Parameter) (value : OsText) (r : Reading) : Except Stop Reading :=
  if p ∈ r.used then fault (.repeated scope p) else
  let r := { r with used := r.used ++ [p] }
  match p with
  | .mode =>
    match value.text?.bind MatchMode.ofSpelling? with
    | some mode => .ok { r with mode }
    | none => fault (if value.isEmpty then .missingValue p else .badChoice p value.shown)
  | .output => if value.isEmpty then fault (.missingValue p) else .ok { r with output := value }
  | .input => if value.isEmpty then fault (.missingValue p) else .ok { r with input := value }
  | _ => .ok r

def settle (scope : Scope) (r : Reading) : Except Stop Reading :=
  match r.pending with
  | none => .ok r
  | some (p, none) => fault (.missingValue p)
  | some (p, some value) => accept scope p value { r with pending := none }

/-- The parameters that count as used next to an argument that is wrong.  The pending one does, whatever its
value; one that has been given twice does not. -/
def usedWithPending (r : Reading) : List Parameter :=
  match r.pending with
  | none | some (_, none) => r.used
  | some (p, some _) => if p ∈ r.used then r.used.erase p else r.used ++ [p]

def flag (scope : Scope) (p : Parameter) (r : Reading) : Except Stop Reading := do
  let r ← r.settle scope
  match p with
  | .help => .error (.answer (.help scope))
  | .version => .error (.answer .version)
  | _ => accept scope p [] r

def unknownOption (scope : Scope) (name : Text) (rest : List OsText) (r : Reading) : UsageError :=
  let used := r.usedWithPending
  let elsewhere := rest.findSome? fun (word : OsText) =>
    (Scope.commands.find? fun command => scope = .program && word = command.name).bind fun command =>
      (Similarity.mostSimilar? name command.longs).map fun long => Tip.optionOf command ("--" ++ long)
  match Similarity.mostSimilar? name scope.longs, elsewhere with
  | some long, _ =>
    let meant := (scope.ofLong? long).toList.filter (· ∉ used)
    .unexpected scope ("--" ++ name) (some (.similarOption ("--" ++ long))) (used ++ meant)
  | none, some tip => .unexpected scope ("--" ++ name) (some tip) used
  | none, none =>
    let tip := if scope.positionals.isEmpty then none else some (Tip.asValue ("--" ++ name))
    .unexpected scope ("--" ++ name) tip used

def long (scope : Scope) (name : OsText) (value : Option OsText) (rest : List OsText) (r : Reading) :
    Except Stop Reading :=
  match scope.ofLong? name with
  | none => fault (unknownOption scope name.shown rest r)
  | some p =>
    match p.placeholder?, value with
    | none, none => r.flag scope p
    | none, some value =>
      fault (.unexpectedValue scope p value.shown (if p ∈ r.used then r.used else r.used ++ [p]))
    | some _, none => return { ← r.settle scope with pending := some (p, none) }
    | some _, some value => do accept scope p value (← r.settle scope)

def unknownLetter (scope : Scope) (letter : Text) : UsageError :=
  let tip := if scope.positionals.isEmpty then none else some (Tip.asValue ('-' :: letter))
  .unexpected scope ('-' :: letter) tip []

def letters (scope : Scope) : OsText → Reading → Except Stop Reading
  | [], r => .ok r
  | .stray b :: rest, _ => fault (unknownLetter scope (OsText.shown (.stray b :: rest)))
  | .char c :: rest, r =>
    match scope.ofShort? c with
    | some p => do letters scope rest (← r.flag scope p)
    | none => fault (unknownLetter scope [c])

def positional (scope : Scope) (value : OsText) (r : Reading) : Except Stop Reading :=
  if .input ∈ r.usedWithPending then fault (.unexpected scope value.shown none [])
  else return { ← r.settle scope with pending := some (.input, some value) }

def word (scope : Scope) (value : OsText) (r : Reading) : Except Stop Reading :=
  match r.pending with
  | some (p, none) => .ok { r with pending := some (p, some value) }
  | _ => r.positional scope value

def arguments (scope : Scope) : List OsText → Reading → Except Stop Reading
  | [], r => r.settle scope
  | arg :: rest, r =>
    match Form.ofArgument arg with
    | .separator => do (← rest.foldlM (fun r value => r.positional scope value) r).settle scope
    | .long name value => do arguments scope rest (← r.long scope name value rest)
    | .letters cs => do arguments scope rest (← r.letters scope cs)
    | .word => do arguments scope rest (← r.word scope arg)

def request (scope : Scope) (debug : Bool) (r : Reading) : Except Stop Request :=
  if .input ∈ r.used then
    let json := .json ∈ r.used
    let command := if scope = .list then Command.list ⟨r.input⟩ json
      else .create ⟨r.input⟩ (r.output.map Path.ofOs) (.overwrite ∈ r.used) r.mode json
    .ok (.run ⟨debug || .debug ∈ r.used, command⟩)
  else fault (.missingPositional scope r.used)

end Reading

def explain (scope : Scope) : List OsText → Except Stop Request
  | [] => .ok (.help scope)
  | word :: rest =>
    match if scope = .program then Scope.ofName? word else none with
    | some command => explain command rest
    | none => Reading.fault (.unknownCommand scope word.shown [])

def unknownCommand (word : OsText) : UsageError :=
  .unknownCommand .program word.shown (Similarity.similar word.shown (Scope.commands.map fun c => c.name))

def program : List OsText → Reading → Except Stop Request
  | [], r => Reading.fault (if r.used.isEmpty then .nothingGiven else .missingCommand)
  | arg :: rest, r =>
    match Form.ofArgument arg with
    | .separator =>
      match rest with
      | [] => Reading.fault (if r.used.isEmpty then .nothingGiven else .missingCommand)
      | word :: _ => Reading.fault <|
        if (Scope.ofName? word).isSome then .unexpected .program word.shown (some (.asCommand word.shown)) []
        else unknownCommand word
    | .long name value => do program rest (← r.long .program name value rest)
    | .letters cs => do program rest (← r.letters .program cs)
    | .word =>
      match Scope.ofName? arg with
      | some .help => explain .program rest
      | some scope => do (← Reading.arguments scope rest {}).request scope (.debug ∈ r.used)
      | none => Reading.fault (unknownCommand arg)

def parse (arguments : List OsText) : Except UsageError Request :=
  match program arguments {} with
  | .ok request | .error (.answer request) => .ok request
  | .error (.fault e) => .error e

end DeclSplit.CommandLine
