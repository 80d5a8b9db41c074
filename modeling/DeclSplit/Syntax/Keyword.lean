/-!
The words with a meaning of their own.  Reserved words can never name anything; the others are ordinary
names except where the grammar gives them a role.
-/

namespace DeclSplit

inductive Keyword where
  | break_ | case | catch_ | class_ | const | continue_ | debugger | default_ | delete | do_
  | else_ | enum | export_ | extends_ | finally_ | for_ | function | if_ | import_ | in_
  | instanceof | new | return_ | super | switch | this_ | throw | try_ | typeof | var | void
  | while | with_ | true_ | false_ | null
  | await | yield | let_ | static | implements | interface | package | private_ | protected_
  | public_ | async | from_ | get | of | set | meta_ | target | accessor | abstract_ | as | asserts
  | assert | any | boolean | constructor | declare | infer | intrinsic | is | keyof | module_
  | namespace_ | never | out_ | readonly | require | number | object | satisfies | string | symbol
  | type | undefined | unique | using_ | unknown | global | bigint | override | source | defer
deriving DecidableEq, Repr

namespace Keyword

def spelling : Keyword → String
  | .break_ => "break"
  | .case => "case"
  | .catch_ => "catch"
  | .class_ => "class"
  | .const => "const"
  | .continue_ => "continue"
  | .debugger => "debugger"
  | .default_ => "default"
  | .delete => "delete"
  | .do_ => "do"
  | .else_ => "else"
  | .enum => "enum"
  | .export_ => "export"
  | .extends_ => "extends"
  | .finally_ => "finally"
  | .for_ => "for"
  | .function => "function"
  | .if_ => "if"
  | .import_ => "import"
  | .in_ => "in"
  | .instanceof => "instanceof"
  | .new => "new"
  | .return_ => "return"
  | .super => "super"
  | .switch => "switch"
  | .this_ => "this"
  | .throw => "throw"
  | .try_ => "try"
  | .typeof => "typeof"
  | .var => "var"
  | .void => "void"
  | .while => "while"
  | .with_ => "with"
  | .true_ => "true"
  | .false_ => "false"
  | .null => "null"
  | .await => "await"
  | .yield => "yield"
  | .let_ => "let"
  | .static => "static"
  | .implements => "implements"
  | .interface => "interface"
  | .package => "package"
  | .private_ => "private"
  | .protected_ => "protected"
  | .public_ => "public"
  | .async => "async"
  | .from_ => "from"
  | .get => "get"
  | .of => "of"
  | .set => "set"
  | .meta_ => "meta"
  | .target => "target"
  | .accessor => "accessor"
  | .abstract_ => "abstract"
  | .as => "as"
  | .asserts => "asserts"
  | .assert => "assert"
  | .any => "any"
  | .boolean => "boolean"
  | .constructor => "constructor"
  | .declare => "declare"
  | .infer => "infer"
  | .intrinsic => "intrinsic"
  | .is => "is"
  | .keyof => "keyof"
  | .module_ => "module"
  | .namespace_ => "namespace"
  | .never => "never"
  | .out_ => "out"
  | .readonly => "readonly"
  | .require => "require"
  | .number => "number"
  | .object => "object"
  | .satisfies => "satisfies"
  | .string => "string"
  | .symbol => "symbol"
  | .type => "type"
  | .undefined => "undefined"
  | .unique => "unique"
  | .using_ => "using"
  | .unknown => "unknown"
  | .global => "global"
  | .bigint => "bigint"
  | .override => "override"
  | .source => "source"
  | .defer => "defer"

def reservedWords : List Keyword := [
  .break_, .case, .catch_, .class_, .const, .continue_, .debugger, .default_, .delete, .do_,
  .else_, .enum, .export_, .extends_, .finally_, .for_, .function, .if_, .import_, .in_,
  .instanceof, .new, .return_, .super, .switch, .this_, .throw, .try_, .typeof, .var, .void,
  .while, .with_, .true_, .false_, .null]

def contextualWords : List Keyword := [
  .await, .yield, .let_, .static, .implements, .interface, .package, .private_, .protected_,
  .public_, .async, .from_, .get, .of, .set, .meta_, .target, .accessor, .abstract_, .as, .asserts,
  .assert, .any, .boolean, .constructor, .declare, .infer, .intrinsic, .is, .keyof, .module_,
  .namespace_, .never, .out_, .readonly, .require, .number, .object, .satisfies, .string, .symbol,
  .type, .undefined, .unique, .using_, .unknown, .global, .bigint, .override, .source, .defer]

def ofSpelling? (word : String) : Option Keyword :=
  (reservedWords ++ contextualWords).find? (·.spelling == word)

def isReserved (k : Keyword) : Bool := reservedWords.contains k

def isModifier : Keyword → Bool
  | .abstract_ | .accessor | .async | .const | .declare | .default_ | .export_ | .in_ | .out_
  | .override | .private_ | .protected_ | .public_ | .readonly | .static => true
  | _ => false

end Keyword

end DeclSplit
